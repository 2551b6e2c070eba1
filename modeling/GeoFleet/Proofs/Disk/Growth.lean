import GeoFleet.Disk.Basic
import GeoFleet.Proofs.Collections

/-! What writing to a disk leaves in place. Folders are made where nothing stands and never go away, so a
path that led to a file still leads there afterwards. A store that is kept in a file is therefore found
again as long as nothing else is written to that file. -/
namespace GeoFleet

/-- Where a path leads, whatever stands on the way. -/
def Path.goal (p : Path) : Place := p.names.foldl Place.advance p.start

namespace Disk

variable {d next : Disk} {p q : Place} {path : String}

def goalKey (path : String) : String := (Path.ofString path).goal.key

def KeepsFolders (d next : Disk) : Prop := ∀ key : String, d[key]? = some .folder → next[key]? = some .folder

theorem keepsFolders_insert {key : String} (free : d[key]? ≠ some .folder) (node : Node) :
    d.KeepsFolders (d.insert key node) := by
  intro other folder
  rw [getElem?_insert_ne]
  · exact folder
  · rintro rfl
    exact free folder

/-- No folder and no text goes away or changes. -/
structure Keeps (d next : Disk) : Prop where
  folders : d.KeepsFolders next
  texts : ∀ (key text : String), d[key]? = some (.text text) → next[key]? = some (.text text)

theorem Keeps.trans {last : Disk} (first : d.Keeps next) (second : next.Keeps last) : d.Keeps last :=
  ⟨fun key folder => second.folders key (first.folders key folder),
    fun key text row => second.texts key text (first.texts key text row)⟩

theorem keeps_insert {key : String} (free : d[key]? ≠ some .folder) (no_text : ∀ text, d[key]? ≠ some (.text text))
    (node : Node) : d.Keeps (d.insert key node) := by
  refine ⟨keepsFolders_insert free node,?_⟩
  intro other text row
  rw [getElem?_insert_ne]
  · exact row
  · rintro rfl
    exact no_text text row

theorem find_ok_iff {node : Option Node} : d.find p = .ok node ↔
    p.names.getLast?.any (Path.nameLimit < ·.utf8ByteSize) = false ∧ d.node? p = node := by
  unfold find
  split
  · rename_i long; simp [long]
  · rename_i fits; simp [fits]

/-- What is found and is no folder stands in the row of the place. -/
theorem row_of_node? {node : Option Node} (found : d.node? p = node) (no_folder : node ≠ some .folder) :
    d[p.key]? = node := by
  unfold node? at found
  split at found
  · exact absurd found.symm no_folder
  · exact found

theorem not_isStart {node : Option Node} (found : d.node? p = node) (no_folder : node ≠ some .folder) :
    p.isStart = false := by
  cases start : p.isStart with
  | false => rfl
  | true =>
    simp only [node?,start,if_true] at found
    exact absurd found.symm no_folder

theorem node?_of_row {node : Option Node} (row : d[p.key]? = node) (below : p.isStart = false) :
    d.node? p = node := by
  simp [node?,below,row]

theorem node?_folder (kept : d.KeepsFolders next) (found : d.node? p = some .folder) :
    next.node? p = some .folder := by
  unfold node? at found ⊢
  split
  · rfl
  · rename_i below
    rw [if_neg below] at found
    exact kept _ found

theorem enter_ok_iff {name : String} :
    d.enter p name = .ok q ↔ q = p.advance name ∧ d.find (p.advance name) = .ok (some .folder) := by
  unfold enter
  constructor
  · intro entered
    obtain ⟨node,found,rest⟩ := bind_eq_ok.mp entered
    split at rest
    · cases rest; exact ⟨rfl,found⟩
    · cases rest
    · cases rest
  · rintro ⟨rfl,found⟩
    exact bind_eq_ok.mpr ⟨_,found,rfl⟩

theorem find_folder (kept : d.KeepsFolders next) (found : d.find p = .ok (some .folder)) :
    next.find p = .ok (some .folder) := by
  obtain ⟨fits,folder⟩ := find_ok_iff.mp found
  exact find_ok_iff.mpr ⟨fits,node?_folder kept folder⟩

theorem enters_ok {names : List String} (entered : names.foldlM d.enter p = .ok q) :
    q = names.foldl Place.advance p ∧ (d.KeepsFolders next → names.foldlM next.enter p = .ok q) := by
  induction names generalizing p with
  | nil => cases entered; exact ⟨rfl,fun _ => rfl⟩
  | cons name names ih =>
    rw [List.foldlM_cons] at entered
    obtain ⟨middle,first,rest⟩ := bind_eq_ok.mp entered
    obtain ⟨rfl,folder⟩ := enter_ok_iff.mp first
    obtain ⟨goal,later⟩ := ih rest
    refine ⟨goal,fun kept => ?_⟩
    rw [List.foldlM_cons]
    exact bind_eq_ok.mpr ⟨_,enter_ok_iff.mpr ⟨rfl,find_folder kept folder⟩,later kept⟩

/-- A path that leads somewhere leads there on a disk with more folders, and to its goal if it has one. -/
theorem follow_ok {path : Path} {destination : Destination} (followed : d.follow path = .ok destination) :
    (∀ q, destination = .entry q → q = path.goal) ∧
      (d.KeepsFolders next → next.follow path = .ok destination) := by
  obtain ⟨front,entered,rest⟩ := bind_eq_ok.mp followed
  obtain ⟨goal,later⟩ := enters_ok entered
  refine ⟨?_,fun kept => bind_eq_ok.mpr ⟨front,later kept,rest⟩⟩
  rintro q rfl
  cases last : path.names.getLast? with
  | none => rw [last] at rest; cases rest
  | some name =>
    rw [last] at rest
    by_cases dots : isDots name = true
    · simp only [dots,if_true] at rest
      cases rest
    · simp only [dots] at rest
      cases rest
      obtain ⟨names,whole⟩ := List.getLast?_eq_some_iff.mp last
      rw [goal,Path.goal,whole,List.dropLast_concat,List.foldl_append]
      rfl

theorem ofString?_ok {path : String} {p : Path} (parsed : Path.ofString? path = .ok p) :
    p = Path.ofString path := by
  unfold Path.ofString? at parsed
  split at parsed
  · cases parsed
  · split at parsed
    · cases parsed
    · cases parsed; rfl

theorem openFile_ok_iff {node : Option Node} : d.openFile path = .ok (q,node) ↔
    ∃ p, Path.ofString? path = .ok p ∧ d.follow p = .ok (.entry q) ∧ p.endsInSlash = false ∧
      d.find q = .ok node ∧ node ≠ some .folder := by
  unfold openFile
  constructor
  · intro opened
    obtain ⟨p,parsed,rest⟩ := bind_eq_ok.mp opened
    obtain ⟨destination,followed,rest⟩ := bind_eq_ok.mp rest
    cases destination with
    | folder place => cases rest
    | entry place =>
      cases slash : p.endsInSlash with
      | true => simp [slash] at rest
      | false =>
        simp only [slash,Bool.false_eq_true,if_false] at rest
        obtain ⟨found,read,rest⟩ := bind_eq_ok.mp rest
        split at rest
        · cases rest
        · rename_i no_folder
          cases rest
          exact ⟨p,parsed,followed,slash,read,no_folder⟩
  · rintro ⟨p,parsed,followed,slash,read,no_folder⟩
    refine bind_eq_ok.mpr ⟨p,parsed,bind_eq_ok.mpr ⟨_,followed,?_⟩⟩
    simp only [slash,Bool.false_eq_true,if_false]
    refine bind_eq_ok.mpr ⟨node,read,?_⟩
    split
    · exact absurd rfl no_folder
    · rfl

/-- A file that can be opened is the row of the place where its path leads. -/
theorem openFile_row {node : Option Node} (opened : d.openFile path = .ok (q,node)) :
    q.key = goalKey path ∧ d[q.key]? = node ∧ node ≠ some .folder := by
  obtain ⟨p,parsed,followed,_,read,no_folder⟩ := openFile_ok_iff.mp opened
  have goal := (@follow_ok d d _ _ followed).1 q rfl
  refine ⟨?_,row_of_node? (find_ok_iff.mp read).2 no_folder,no_folder⟩
  rw [goal,ofString?_ok parsed,goalKey]

/-- It can still be opened on a disk with more folders, unless one stands in its place. -/
theorem openFile_kept {node : Option Node} (opened : d.openFile path = .ok (q,node))
    (kept : d.KeepsFolders next) (free : next[q.key]? ≠ some .folder) :
    next.openFile path = .ok (q,next[q.key]?) := by
  obtain ⟨p,parsed,followed,slash,read,no_folder⟩ := openFile_ok_iff.mp opened
  obtain ⟨fits,stands⟩ := find_ok_iff.mp read
  exact openFile_ok_iff.mpr ⟨p,parsed,(follow_ok followed).2 kept,slash,
    find_ok_iff.mpr ⟨fits,node?_of_row rfl (not_isStart stands no_folder)⟩,free⟩

theorem lookup_ok_iff {p : Path} {node : Node} : d.lookup p = .ok node ↔
    (∃ q, d.follow p = .ok (.folder q) ∧ node = .folder) ∨
    ∃ q, d.follow p = .ok (.entry q) ∧ d.find q = .ok (some node) ∧
      ¬(p.endsInSlash = true ∧ ¬node.isFolder = true) := by
  unfold lookup
  constructor
  · intro found
    obtain ⟨destination,followed,rest⟩ := bind_eq_ok.mp found
    cases destination with
    | folder place => cases rest; exact .inl ⟨place,followed,rfl⟩
    | entry place =>
      obtain ⟨found,read,rest⟩ := bind_eq_ok.mp rest
      cases found with
      | none => cases rest
      | some other =>
        simp only at rest
        split at rest
        · cases rest
        · rename_i fits
          cases rest
          exact .inr ⟨place,followed,read,fits⟩
  · rintro (⟨q,followed,rfl⟩ | ⟨q,followed,read,fits⟩)
    · exact bind_eq_ok.mpr ⟨_,followed,rfl⟩
    · refine bind_eq_ok.mpr ⟨_,followed,bind_eq_ok.mpr ⟨_,read,?_⟩⟩
      simp only [fits,if_false]
      rfl

/-- A folder or a text that is looked up stays where it is. -/
theorem lookup_kept {p : Path} {node : Node} (kept : d.Keeps next) (no_store : ∀ s, node ≠ .store s)
    (found : d.lookup p = .ok node) : next.lookup p = .ok node := by
  rcases lookup_ok_iff.mp found with ⟨q,followed,same⟩ | ⟨q,followed,read,fits⟩
  · exact lookup_ok_iff.mpr (.inl ⟨q,(follow_ok followed).2 kept.folders,same⟩)
  · refine lookup_ok_iff.mpr (.inr ⟨q,(follow_ok followed).2 kept.folders,?_,fits⟩)
    cases node with
    | folder => exact find_folder kept.folders read
    | store s => exact absurd rfl (no_store s)
    | text text =>
      obtain ⟨short,stands⟩ := find_ok_iff.mp read
      have row := row_of_node? stands (by simp)
      exact find_ok_iff.mpr ⟨short,node?_of_row (kept.texts _ _ row) (not_isStart stands (by simp))⟩

theorem read_kept {text : String} (kept : d.Keeps next) (read : d.read path = .ok text) :
    next.read path = .ok text := by
  obtain ⟨p,parsed,rest⟩ := bind_eq_ok.mp read
  obtain ⟨node,found,rest⟩ := bind_eq_ok.mp rest
  cases node with
  | folder => cases rest
  | store s => cases rest
  | text other => exact bind_eq_ok.mpr ⟨p,parsed,bind_eq_ok.mpr ⟨_,lookup_kept kept (by simp) found,rest⟩⟩

section Folders

/-- A disk with more folders, made where nothing stood. -/
def Grows (d next : Disk) : Prop :=
  ∀ key : String, next[key]? = d[key]? ∨ d[key]? = none ∧ next[key]? = some .folder

theorem Grows.refl (d : Disk) : d.Grows d := fun _ => .inl rfl

theorem Grows.trans {last : Disk} (first : d.Grows next) (second : next.Grows last) : d.Grows last := by
  intro key
  rcases second key with same | ⟨absent,folder⟩
  · rw [same]; exact first key
  · rcases first key with same | ⟨free,_⟩
    · exact .inr ⟨same.symm.trans absent,folder⟩
    · exact .inr ⟨free,folder⟩

theorem Grows.keeps (grows : d.Grows next) : d.Keeps next := by
  have rows : ∀ (key : String) (node : Node), d[key]? = some node → next[key]? = some node := by
    intro key node row
    rcases grows key with same | ⟨absent,_⟩
    · rw [same]; exact row
    · rw [absent] at row; cases row
  exact ⟨fun key => rows key .folder,fun key text => rows key (.text text)⟩

theorem makeFolder_grows {p : Path} (made : d.makeFolder p = .ok next) : d.Grows next := by
  obtain ⟨destination,followed,rest⟩ := bind_eq_ok.mp made
  cases destination with
  | folder place => cases rest
  | entry place =>
    obtain ⟨node,read,rest⟩ := bind_eq_ok.mp rest
    cases node with
    | some node => cases rest
    | none =>
      cases rest
      have absent := row_of_node? (find_ok_iff.mp read).2 (by simp)
      intro key
      by_cases same : place.key = key
      · subst same; exact .inr ⟨absent,by simp⟩
      · exact .inl (getElem?_insert_ne same)

theorem makeFolders_grows (paths : List Path) (d : Disk) : d.Grows (makeFolders paths d).2 := by
  induction paths generalizing d with
  | nil => exact .refl d
  | cons p above ih =>
    unfold makeFolders
    simp only
    split
    · rename_i made; exact makeFolder_grows made
    · have later := ih d
      split
      · rename_i failed; rw [failed] at later; exact later
      · rename_i done
        rw [done] at later
        split
        · rename_i made; exact later.trans (makeFolder_grows made)
        · exact later
    · exact .refl d

theorem createFolders_grows (d : Disk) (path : String) : d.Grows (d.createFolders path).2 := by
  unfold createFolders
  split
  · exact .refl d
  · exact makeFolders_grows _ d

theorem isFolder_iff {p : Path} : d.isFolder p = true ↔ d.lookup p = .ok .folder := by
  unfold isFolder
  split
  · rename_i node found
    rw [found]
    cases node <;> simp [Node.isFolder]
  · rename_i failed
    rw [failed]
    simp

/-- Whatever makes a folder leaves a folder there. -/
theorem isFolder_of_makeFolder {p : Path} (made : d.makeFolder p = .ok next) : next.isFolder p = true := by
  have kept := (makeFolder_grows made).keeps
  obtain ⟨destination,followed,rest⟩ := bind_eq_ok.mp made
  cases destination with
  | folder place => cases rest
  | entry place =>
    obtain ⟨node,read,rest⟩ := bind_eq_ok.mp rest
    cases node with
    | some node => cases rest
    | none =>
      cases rest
      obtain ⟨short,stands⟩ := find_ok_iff.mp read
      refine isFolder_iff.mpr (lookup_ok_iff.mpr (.inr ⟨place,(follow_ok followed).2 kept.folders,?_,?_⟩))
      · exact find_ok_iff.mpr ⟨short,node?_of_row (by simp) (not_isStart stands (by simp))⟩
      · simp [Node.isFolder]

theorem isFolder_of_makeFolders {p : Path} {above : List Path}
    (made : makeFolders (p :: above) d = (.ok (),next)) : next.isFolder p = true := by
  unfold makeFolders at made
  simp only at made
  split at made
  · rename_i first
    cases made
    exact isFolder_of_makeFolder first
  · split at made
    · cases made
    · split at made
      · rename_i second
        cases made
        exact isFolder_of_makeFolder second
      · split at made
        · rename_i folder; cases made; exact folder
        · cases made
  · split at made
    · rename_i folder; cases made; exact folder
    · cases made

/-- Where there is a folder nothing has to be made. -/
theorem makeFolders_of_isFolder {p : Path} (folder : d.isFolder p = true) (above : List Path) :
    makeFolders (p :: above) d = (.ok (),d) := by
  have occupied : d.makeFolder p = .error .occupied := by
    rcases lookup_ok_iff.mp (isFolder_iff.mp folder) with ⟨q,followed,_⟩ | ⟨q,followed,read,_⟩
    · rw [makeFolder,followed]; rfl
    · rw [makeFolder,followed]
      change (d.find q >>= _) = _
      rw [read]; rfl
  unfold makeFolders
  simp only [occupied,folder,if_true]

/-- A folder that was created is there when it is to be created again. -/
theorem createFolders_again {last : Disk} (created : d.createFolders path = (.ok (),next))
    (kept : next.Keeps last) : last.createFolders path = (.ok (),last) := by
  unfold createFolders at created ⊢
  split at created
  · cases created
  · rename_i p parsed
    have folder := isFolder_iff.mp (isFolder_of_makeFolders created)
    exact makeFolders_of_isFolder (isFolder_iff.mpr (lookup_kept kept (by simp) folder)) _

end Folders

section Stores

def storeAt? (d : Disk) (place : String) : Option Store :=
  match d[place]? with
  | some (.store s) => some s
  | _ => none

variable {place : String} {s : Store}

theorem storeAt?_eq_some_iff : d.storeAt? place = some s ↔ d[place]? = some (.store s) := by
  unfold storeAt?
  split
  · rename_i row; simp [row]
  · rename_i other
    simpa using other s

def Textless (d : Disk) (place : String) : Prop := ∀ text, d[place]? ≠ some (.text text)

theorem textless_of_none (absent : d[place]? = none) : d.Textless place := by
  simp [Textless,absent]

/-- A place keeps what it holds where it is left alone or where an empty one becomes a folder. -/
theorem Textless.step (textless : d.Textless place)
    (row : next[place]? = d[place]? ∨ d[place]? = none ∧ next[place]? = some .folder) :
    next.Textless place ∧ next.storeAt? place = d.storeAt? place := by
  unfold Textless storeAt?
  rcases row with same | ⟨absent,folder⟩
  · rw [same]; exact ⟨textless,rfl⟩
  · rw [absent,folder]; exact ⟨by simp,rfl⟩

theorem Textless.grows (textless : d.Textless place) (grows : d.Grows next) :
    next.Textless place ∧ next.storeAt? place = d.storeAt? place :=
  textless.step (grows place)

theorem Textless.write {text : String} (textless : d.Textless place) (apart : goalKey path ≠ place)
    (written : d.write path text = .ok next) :
    next.Textless place ∧ next.storeAt? place = d.storeAt? place := by
  obtain ⟨⟨q,node⟩,opened,rest⟩ := bind_eq_ok.mp written
  cases rest
  refine textless.step (.inl (getElem?_insert_ne ?_))
  rw [(openFile_row opened).1]
  exact apart

/-- Texts written under their paths; what cannot be written is left out. -/
def writeAll (texts : List (String × String)) (d : Disk) : Disk :=
  texts.foldl (fun d (path,text) =>
    match d.write path text with
    | .ok next => next
    | .error _ => d) d

theorem Textless.writeAll {texts : List (String × String)} (textless : d.Textless place)
    (apart : ∀ file ∈ texts, goalKey file.1 ≠ place) :
    (d.writeAll texts).Textless place ∧ (d.writeAll texts).storeAt? place = d.storeAt? place := by
  induction texts generalizing d with
  | nil => exact ⟨textless,rfl⟩
  | cons file texts ih =>
    have rest : ∀ file ∈ texts, goalKey file.1 ≠ place :=
      fun file member => apart file (List.mem_cons_of_mem _ member)
    unfold Disk.writeAll at ih ⊢
    rw [List.foldl_cons]
    cases written : d.write file.1 file.2 with
    | error failure => simpa only [written] using ih textless rest
    | ok next =>
      obtain ⟨textless',kept⟩ := textless.write (apart file List.mem_cons_self) written
      rw [← kept]
      simpa only [written] using ih textless' rest

theorem store?_eq_some_iff : d.store? path = some s ↔ ∃ q, d.openFile path = .ok (q,some (.store s)) := by
  unfold store?
  constructor
  · intro found
    split at found
    · rename_i q kept opened; cases found; exact ⟨q,opened⟩
    · cases found
  · rintro ⟨q,opened⟩
    rw [opened]

/-- A store that is found by a path lies where the path leads. -/
theorem row_of_store? (found : d.store? path = some s) : d[goalKey path]? = some (.store s) := by
  obtain ⟨q,opened⟩ := store?_eq_some_iff.mp found
  obtain ⟨goal,row,_⟩ := openFile_row opened
  rw [← goal,row]

theorem storeAt?_of_store? (found : d.store? path = some s) : d.storeAt? (goalKey path) = some s :=
  storeAt?_eq_some_iff.mpr (row_of_store? found)

theorem textless_of_store? (found : d.store? path = some s) : d.Textless (goalKey path) := by
  intro text row
  rw [row_of_store? found] at row
  cases row

/-- A store that is put where a file can be opened is found there. -/
theorem store?_insert {node : Option Node} (opened : d.openFile path = .ok (q,node)) (s : Store) :
    store? (d.insert q.key (.store s)) path = some s := by
  obtain ⟨_,row,no_folder⟩ := openFile_row opened
  have kept : d.KeepsFolders (d.insert q.key (.store s)) := keepsFolders_insert (row ▸ no_folder) _
  have again := openFile_kept opened kept (by simp)
  rw [Std.ExtTreeMap.getElem?_insert_self] at again
  exact store?_eq_some_iff.mpr ⟨q,again⟩

theorem Textless.keeps_insert {node : Option Node} (textless : d.Textless (goalKey path))
    (opened : d.openFile path = .ok (q,node)) (s : Store) : d.Keeps (d.insert q.key (.store s)) := by
  obtain ⟨goal,row,no_folder⟩ := openFile_row opened
  exact Disk.keeps_insert (row ▸ no_folder) (goal ▸ textless) _

/-- Opening a store finds what was kept, or begins with nothing. -/
theorem Textless.openStore (textless : d.Textless (goalKey path)) (opened : d.openStore path = .ok (s,next)) :
    s = (d.storeAt? (goalKey path)).getD .empty ∧ d.Keeps next ∧ next.store? path = some s := by
  obtain ⟨⟨q,node⟩,found,rest⟩ := bind_eq_ok.mp opened
  have found := mapError_eq_ok.mp found
  obtain ⟨goal,row,no_folder⟩ := openFile_row found
  rw [goal] at row
  cases node with
  | none =>
    cases rest
    refine ⟨?_,textless.keeps_insert found _,store?_insert found _⟩
    rw [storeAt?,row]
    rfl
  | some node =>
    cases node with
    | folder => exact absurd rfl no_folder
    | text text => exact absurd row (textless text)
    | store s =>
      cases rest
      refine ⟨?_,textless.keeps_insert found _,store?_insert found _⟩
      rw [storeAt?_eq_some_iff.mpr row]
      rfl

/-- A store that was found can be opened. -/
theorem openStore_of_store? (found : d.store? path = some s) : ∃ next, d.openStore path = .ok (s,next) := by
  obtain ⟨q,opened⟩ := store?_eq_some_iff.mp found
  exact ⟨_,bind_eq_ok.mpr ⟨_,mapError_eq_ok.mpr opened,rfl⟩⟩

theorem saveStore_found (found : d.store? path = some s) (later : Store) :
    d.Keeps (d.saveStore path later) ∧ (d.saveStore path later).store? path = some later := by
  obtain ⟨q,opened⟩ := store?_eq_some_iff.mp found
  have saved : d.saveStore path later = d.insert q.key (.store later) := by rw [Disk.saveStore,opened]
  rw [saved]
  exact ⟨(textless_of_store? found).keeps_insert opened later,store?_insert opened later⟩

end Stores

end Disk

end GeoFleet
