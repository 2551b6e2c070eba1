import GeoFleet.Proofs.Store.Scans

/-! A scan is a filter. The texts that begin with a stem stand next to each other in the order of their bytes,
with the stem itself in front, so a scan that starts there can stop at the first other key. It answers the
values under the stem, as many as it may, and fails when one of these cannot be read; the keys that are
dropped with a target are found in the same way. -/
namespace GeoFleet

namespace Table

theorem begins_iff_bytes {stem key : String} : begins stem key = true ↔ Text.bytes stem <+: Text.bytes key :=
  begins_iff.trans Text.bytes_prefix_iff.symm

end Table

theorem Store.deleteFieldStats_row_of (s : Store) (target key : String) :
    (s.deleteFieldStats target).2.fieldStats[key]? =
      if key ∈ (s.fieldStats.rowsUnder (Key.stem target)).map Prod.fst then none else s.fieldStats[key]? := by
  rw [← Table.keysUnder_eq]
  exact Table.getElem?_eraseKeys _ _ key

/-- Whatever a table holds: its rows under a stem are those whose keys begin with the bytes of the stem, in the
order of bytes. A scan answers the values of these rows, up to the limit, and fails exactly when one of those
cannot be read. The keys under a stem are the keys of these rows; dropping the statistics of a target counts
the rows under its stem, takes them away, and leaves the others. -/
theorem Table.scan_filters (t : Table α) (stem : String) :
    let rows := t.rowsUnder stem
    (∀ key row, (key,row) ∈ rows ↔ t[key]? = some row ∧ Text.bytes stem <+: Text.bytes key) ∧
    (rows.Pairwise fun a b => Text.bytes a.1 < Text.bytes b.1) ∧
    (∀ limit list, t.scan stem limit = .ok list ↔ (cut limit rows).map Prod.snd = list.map some) ∧
    (∀ limit err, t.scan stem limit = .error err ↔ err = .unreadable ∧ ∃ row ∈ cut limit rows, row.2 = none) ∧
    t.keysUnder stem = rows.map Prod.fst ∧
    ∀ (s : Store) (target : String), let dropped := (s.fieldStats.rowsUnder (Key.stem target)).map Prod.fst
      (s.deleteFieldStats target).1 = dropped.length ∧
      ∀ key, (s.deleteFieldStats target).2.fieldStats[key]? =
        if key ∈ dropped then none else s.fieldStats[key]? := by
  intro rows
  refine ⟨?_,(t.rowsUnder_sorted stem).imp Text.bytes_lt_of_compare,?_,?_,t.keysUnder_eq stem,?_⟩
  · intro key row
    rw [mem_rowsUnder_iff,begins_iff_bytes,and_comm]
  · intro limit list
    rw [scan_eq_readAll,readAll_ok_iff]
  · intro limit err
    rw [scan_eq_readAll,readAll_error_iff]
  · intro s target dropped
    exact ⟨congrArg List.length (s.fieldStats.keysUnder_eq _),s.deleteFieldStats_row_of target⟩

end GeoFleet
