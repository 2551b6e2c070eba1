import GeoFleet.Proofs.Command.Agreement
import GeoFleet.Proofs.Disk.Growth
import GeoFleet.Proofs.Engine.Restart

/-! How a run of a daemon ends. It fails before it opened the store, having made nothing but folders, or it
fails with the store open, or it makes its pass and saves what the engine leaves. Nothing of this takes
away what a run needs, so a run that made its pass makes it again. -/
namespace GeoFleet

theorem Config.ofFile_kept {d next : Disk} (kept : d.Keeps next) (parsed : ofFile d path = .ok c) :
    ofFile next path = .ok c := by
  obtain ⟨text,read,rest⟩ := bind_eq_ok.mp parsed
  have reread := Disk.read_kept kept (mapError_eq_ok.mp read)
  exact bind_eq_ok.mpr ⟨text,mapError_eq_ok.mpr reread,rest⟩

namespace Daemon

def Options.storePath (o : Options) : String := Path.join o.dataFolder storeFile

def Options.storePlace (o : Options) : String := Disk.goalKey o.storePath

variable {o : Options} {d : Disk}

theorem openStore_ok_iff {c : Config} {interval : Duration} {path : String} {store : Store} {next : Disk} :
    openStore o d = (.ok (c,interval,path,store),next) ↔
      Config.ofFile d o.config = .ok c ∧ intervalOf o c = .ok interval ∧ path = o.storePath ∧
      ∃ folders, d.createFolders o.dataFolder = (.ok (),folders) ∧
        folders.openStore o.storePath = .ok (store,next) := by
  unfold openStore
  constructor
  · intro opened
    split at opened
    · cases opened
    · rename_i read
      obtain ⟨c',parsed,timed⟩ := bind_eq_ok.mp read
      split at opened
      · cases opened
      · rename_i created
        simp only at opened
        split at opened
        · cases opened
        · rename_i found
          cases opened
          cases known : intervalOf o c' with
          | error failure => rw [known] at timed; cases timed
          | ok time =>
            rw [known] at timed
            cases timed
            exact ⟨parsed,known,rfl,_,created,found⟩
  · rintro ⟨parsed,timed,rfl,folders,created,found⟩
    have read : (Config.ofFile d o.config >>= fun c => (intervalOf o c).map (c,·)) = .ok (c,interval) :=
      bind_eq_ok.mpr ⟨c,parsed,by rw [timed]; rfl⟩
    rw [Options.storePath] at found
    simp only [read,created,found]
    rfl

/-- A start that does not get to the store has made nothing but folders. -/
theorem openStore_grows {failure : Failure} {next : Disk} (failed : openStore o d = (.error failure,next)) :
    d.Grows next := by
  unfold openStore at failed
  split at failed
  · cases failed; exact .refl d
  · have grows := d.createFolders_grows o.dataFolder
    split at failed
    · rename_i made
      cases failed
      rwa [made] at grows
    · rename_i made
      rw [made] at grows
      simp only at failed
      split at failed
      · cases failed; exact grows
      · cases failed

section Opened

variable {c : Config} {interval : Duration} {store : Store} {next : Disk}

theorem opened_store (textless : d.Textless o.storePlace)
    (opened : openStore o d = (.ok (c,interval,o.storePath,store),next)) :
    store = (d.storeAt? o.storePlace).getD .empty ∧ next.store? o.storePath = some store := by
  obtain ⟨_,_,_,folders,created,found⟩ := openStore_ok_iff.mp opened
  have grows := d.createFolders_grows o.dataFolder
  rw [created] at grows
  obtain ⟨textless',same⟩ := textless.grows grows
  obtain ⟨own,_,present⟩ := textless'.openStore found
  exact ⟨own.trans (congrArg (·.getD .empty) same),present⟩

theorem run_unbuilt (opened : openStore o d = (.ok (c,interval,o.storePath,store),next))
    (broken : Engine.ofConfig c store = .error err) (now : Nat) :
    (run o now d).1.failure = some (.engine err) ∧ (run o now d).2 = next := by
  have result : (assemble o c interval o.storePath store).2 = .error (.engine err) := by
    rw [assemble_result,broken]; rfl
  simp only [run,start,opened,result]
  exact ⟨trivial,trivial⟩

theorem run_built (opened : openStore o d = (.ok (c,interval,o.storePath,store),next))
    (built : Engine.ofConfig c store = .ok e) (now : Nat) :
    (run o now d).1.failure = none ∧ (run o now d).2 =
      next.saveStore o.storePath (e.evaluateAll ⟨.silent,now,fun _ => .ok ()⟩).2.store := by
  have result : (assemble o c interval o.storePath store).2 = .ok ⟨e,interval,o.dryRun,o.storePath⟩ := by
    rw [assemble_result,built]; rfl
  simp only [run,start,opened,result]
  exact ⟨trivial,rfl⟩

end Opened

/-- A run fails before or after it opened the store, or it makes its pass. -/
theorem run_stages (o : Options) (now : Nat) (d : Disk) :
    (∃ failure, (run o now d).1.failure = some failure ∧ d.Grows (run o now d).2) ∨
    ∃ c interval store next, openStore o d = (.ok (c,interval,o.storePath,store),next) ∧
      ((∃ failure, (run o now d).1.failure = some failure ∧ (run o now d).2 = next) ∨
      ∃ e, Engine.ofConfig c store = .ok e ∧ (run o now d).1.failure = none ∧ (run o now d).2 =
        next.saveStore o.storePath (e.evaluateAll ⟨.silent,now,fun _ => .ok ()⟩).2.store) := by
  rcases opened : openStore o d with ⟨failure | ⟨c,interval,path,store⟩,next⟩
  · refine .inl ⟨failure,?_,?_⟩
    · simp only [run,start,opened]
    · simp only [run,start,opened]
      exact openStore_grows opened
  · obtain ⟨_,_,rfl,_⟩ := openStore_ok_iff.mp opened
    refine .inr ⟨c,interval,store,next,rfl,?_⟩
    cases built : Engine.ofConfig c store with
    | error err =>
      obtain ⟨failed,same⟩ := run_unbuilt opened built now
      exact .inl ⟨_,failed,same⟩
    | ok e =>
      obtain ⟨done,same⟩ := run_built opened built now
      exact .inr ⟨e,rfl,done,same⟩

/-- A run that made its pass makes it again on the disk that it left, over the same configuration. -/
theorem run_again (textless : d.Textless o.storePlace) (done : (run o now d).1.failure = none) (later : Nat) :
    (run o later (run o now d).2).1.failure = none ∧
      Config.ofFile (run o now d).2 o.config = Config.ofFile d o.config := by
  rcases run_stages o now d with ⟨failure,failed,_⟩ | ⟨c,interval,store,next,opened,result⟩
  · rw [failed] at done; cases done
  · rcases result with ⟨failure,failed,_⟩ | ⟨e,built,_,same⟩
    · rw [failed] at done; cases done
    · obtain ⟨parsed,timed,_,folders,created,found⟩ := openStore_ok_iff.mp opened
      have grows := d.createFolders_grows o.dataFolder
      rw [created] at grows
      obtain ⟨_,kept,present⟩ := (textless.grows grows).1.openStore found
      obtain ⟨kept',saved⟩ := Disk.saveStore_found present (e.evaluateAll ⟨.silent,now,fun _ => .ok ()⟩).2.store
      rw [← same] at kept' saved
      have settled := kept.trans kept'
      have reparsed := Config.ofFile_kept (grows.keeps.trans settled) parsed
      obtain ⟨last,refound⟩ := Disk.openStore_of_store? saved
      have reopened := openStore_ok_iff.mpr
        ⟨reparsed,timed,rfl,_,Disk.createFolders_again created settled,refound⟩
      exact ⟨(run_built reopened (Engine.ofConfig_withStore built _) later).1,reparsed.trans parsed.symm⟩

end Daemon

end GeoFleet
