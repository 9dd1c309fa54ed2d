import OnePass.Proofs.Paths

/-
**Opening, writing, removing and reading back.**

On the way that a path leads there are directories and links only, and none of them is touched when
a file is written or removed.  So two trees that differ in one file are alike for every path: it
leads to the same place in both, and only what stands there may differ.  What is written through a
path is read back through it, a file that is removed leaves its name free, and nothing else in the
tree changes.

Main definitions:

* `OnePass.FileTree.HasRoom` — a file at a location can be written so far;
* `OnePass.FileTree.TakesFile` — a location at which a file stands, or nothing;
* `OnePass.FileTree.DiffersAt` — **trees that differ in one file** at most;
* `OnePass.FileTree.Creates` — a path by which a regular file can be opened for writing;
* `OnePass.FileTree.IsOrdinary` — a tree of directories, files and links.

Main results:

* `OnePass.FileTree.entry?_insert_self`, `OnePass.FileTree.entry?_insert_of_ne`,
  `OnePass.FileTree.entry?_erase_self`, `OnePass.FileTree.entry?_erase_of_ne` — what stands where
  behind an insertion and behind a removal;
* `OnePass.FileTree.DiffersAt.resolve` — **a path leads to the same place in trees that differ in
  one file**;
* `OnePass.FileTree.Creates.resolve_read` — **what is written through a path is read back through
  it**;
* `OnePass.FileTree.Creates.resolve_inspect` — whoever inspects such a path finds the file, unless
  it names a link.
-/

set_option relaxedAutoImplicit false
set_option autoImplicit false

namespace OnePass.FileTree

variable {tree tree' : FileTree} {location target here : Location} {entry : Entry} {path : Bytes}

/-! ### Entries -/

theorem lookup_filter_ne {l : Location} (h : l ≠ location) (entries : List (Location × Entry)) :
    (entries.filter (·.1 ≠ location)).lookup l = entries.lookup l := by
  induction entries with
  | nil => rfl
  | cons first entries ih =>
      by_cases hfirst : first.1 = location
      · have hne : (l == first.1) = false := by
          rw [hfirst]
          simpa using h
        rw [List.filter_cons_of_neg (by simpa using hfirst), ih, List.lookup_cons, hne]
      · rw [List.filter_cons_of_pos (by simpa using hfirst), List.lookup_cons, List.lookup_cons, ih]

theorem entry?_insert_self (tree : FileTree) (entry : Entry) (h : location ≠ []) :
    entry? (tree.insert location entry) location = some entry := by
  cases location with
  | nil => exact absurd rfl h
  | cons name outer => simp [ entry?, insert]

theorem entry?_insert_of_ne {l : Location} (h : l ≠ location) :
    entry? (tree.insert location entry) l = tree.entry? l := by
  cases l with
  | nil => rfl
  | cons name outer =>
      have hne : (name :: outer == location) = false := by simpa using h
      simp only [ entry?, insert, erase, List.lookup_cons, hne]
      exact lookup_filter_ne h tree.entries

theorem entry?_erase_self (tree : FileTree) (h : location ≠ []) :
    entry? (tree.erase location) location = none := by
  cases location with
  | nil => exact absurd rfl h
  | cons name outer =>
      simp only [ entry?, erase, List.lookup_eq_none_iff]
      intro other hother
      have hne : other.1 ≠ name :: outer := by simpa using (List.mem_filter.1 hother).2
      simpa using hne.symm

theorem entry?_erase_of_ne {l : Location} (h : l ≠ location) :
    entry? (tree.erase location) l = tree.entry? l := by
  cases l with
  | nil => rfl
  | cons name outer => exact lookup_filter_ne h tree.entries

/-- The last entry at a location is the one that counts. -/
theorem insert_insert (entry' : Entry) :
    (tree.insert location entry).insert location entry' = tree.insert location entry' := by
  simp [insert, erase]

/-- Whatever has been put at a location, it is gone with it. -/
theorem erase_insert : (tree.insert location entry).erase location = tree.erase location := by
  simp [insert, erase]

/-! ### Room -/

/-- A file at the location takes so many bytes. -/
def HasRoom (tree : FileTree) (location : Location) (n : Nat) : Prop :=
  ∀ limit ∈ tree.limit? location, n ≤ limit.room

instance (tree : FileTree) (location : Location) (n : Nat) : Decidable (tree.HasRoom location n) :=
  inferInstanceAs (Decidable (∀ limit ∈ tree.limit? location, n ≤ limit.room))

theorem not_hasRoom_iff {n : Nat} :
    ¬ tree.HasRoom location n ↔ ∃ limit, tree.limit? location = some limit ∧ limit.room < n := by
  simp [HasRoom]

/-- What stands in a tree says nothing about how far files can be written. -/
theorem hasRoom_insert {l : Location} {n : Nat} :
    (tree.insert location entry).HasRoom l n ↔ tree.HasRoom l n :=
  Iff.rfl

theorem room_of_file {content : Bytes} (h : tree.entry? location = some (.file content)) :
    tree.room location = tree.limit? location := by
  simp only [room, h]

/-! ### Trees that differ in one file -/

/-- A place for a file: a file stands there, or nothing. -/
def TakesFile (tree : FileTree) (location : Location) : Prop :=
  ∀ entry, tree.entry? location = some entry → ∃ old, entry = .file old

/-- A place for a file is not on the way to anything. -/
theorem TakesFile.ne_of_entry (h : tree.TakesFile target)
    (hentry : tree.entry? location = some entry) (hne : ∀ old, entry ≠ .file old) :
    location ≠ target := by
  rintro rfl
  obtain ⟨old, hold⟩ := h entry hentry
  exact hne old hold

theorem TakesFile.ne_nil (h : tree.TakesFile target) : target ≠ [] :=
  (h.ne_of_entry rfl (by simp)).symm

/-- A name for a file is the last one, whatever it is followed for. -/
theorem TakesFile.strides {intent : Intent} {name : Bytes} (h : tree.TakesFile (name :: here))
    (hname : IsName name) :
    tree.Strides intent false here [name] (.arrived (tree.targetAt (name :: here))) := by
  cases hentry : tree.entry? (name :: here) with
  | none =>
      rw [targetAt_of_none hentry]
      exact .miss hname (by simp [Refused]) hentry
  | some entry =>
      rw [targetAt_of_some hentry]
      obtain ⟨old, rfl⟩ := h entry hentry
      exact .reach hname (by simp) hentry (by simp) (by simp)

/-- **Trees that differ in one file** at most: it may have another content, or be in one tree
only. -/
structure DiffersAt (target : Location) (tree tree' : FileTree) : Prop where
  /-- The command runs in the same directory. -/
  workingDirectory_eq : tree'.workingDirectory = tree.workingDirectory
  /-- Everything else is the same. -/
  entry?_of_ne : ∀ location, location ≠ target → tree'.entry? location = tree.entry? location
  /-- The first tree has a file there, or nothing. -/
  takesFile : tree.TakesFile target
  /-- So has the second one. -/
  takesFile' : tree'.TakesFile target

/-- Where a target is in another tree: the same location, with what stands there. -/
def Target.within (tree : FileTree) : Target → Target
  | .found location .directory => .found location .directory
  | .found location _ | .free location => tree.targetAt location

theorem Target.within_found (location : Location) (h : entry ≠ .directory) :
    (Target.found location entry).within tree = tree.targetAt location := by
  cases entry with
  | directory => exact absurd rfl h
  | file | link | nullDevice | fullDevice | systemFile => rfl

/-- What stands in a tree is where it is. -/
theorem Target.within_of_stands {result : Target} (h : result.Stands tree) :
    result.within tree = result := by
  match result, h with
  | .free location, h => exact targetAt_of_none h
  | .found location .directory, _ => rfl
  | .found location entry, .inr h =>
      by_cases hdirectory : entry = .directory
      · rw [hdirectory]
        rfl
      · rw [within_found location hdirectory, targetAt_of_some h]

/-- Where a stop is in another tree. -/
def Stop.within (tree : FileTree) : Stop → Stop
  | .arrived result => .arrived (result.within tree)
  | .detour here asDirectory rest => .detour here asDirectory rest

namespace DiffersAt

theorem symm (h : DiffersAt target tree tree') : DiffersAt target tree' tree :=
  ⟨h.workingDirectory_eq.symm, fun location hne => (h.entry?_of_ne location hne).symm, h.takesFile',
    h.takesFile⟩

theorem insert (h : tree.TakesFile target) (content : Bytes) :
    DiffersAt target tree (tree.insert target (.file content)) := by
  refine ⟨rfl, fun location hne => entry?_insert_of_ne hne, h, ?_⟩
  intro entry hentry
  rw [entry?_insert_self tree _ h.ne_nil] at hentry
  exact ⟨content, (Option.some.inj hentry).symm⟩

theorem erase (h : tree.TakesFile target) : DiffersAt target tree (tree.erase target) := by
  refine ⟨rfl, fun location hne => entry?_erase_of_ne hne, h, ?_⟩
  intro entry hentry
  rw [entry?_erase_self tree h.ne_nil] at hentry
  cases hentry

section

variable {intent : Intent} {asDirectory : Bool} {rest : List Bytes} {stop : Stop} {links : Nat}
  {result : Target}

/-- What is no file stands in both trees. -/
theorem entry_eq (h : DiffersAt target tree tree') (hentry : tree.entry? location = some entry)
    (hne : ∀ old, entry ≠ .file old) : tree'.entry? location = some entry :=
  (h.entry?_of_ne location (h.takesFile.ne_of_entry hentry hne)).trans hentry

/-- Names lead to the same place.  Where the first tree has nothing the second one may have a file,
and that is no way to a directory; a file is not made like this. -/
theorem strides (h : DiffersAt target tree tree')
    (hstrides : tree.Strides intent asDirectory here rest stop)
    (hfree : intent = .create ∨ stop ≠ .arrived (.free target)) :
    tree'.Strides intent asDirectory here rest (stop.within tree') := by
  -- Directories and links on the way stand in both trees; only the last name may be the target.
  induction hstrides with
  | stay here => exact .stay here
  | dot hstrides ih => exact .dot (ih hfree)
  | dots hstrides ih => exact .dots (ih hfree)
  | enter hname hrefused hentry hstrides ih =>
      exact .enter hname hrefused (h.entry_eq hentry (by simp)) (ih hfree)
  | follow hname hrefused hinspected hentry =>
      exact .follow hname hrefused hinspected (h.entry_eq hentry (by simp))
  | look hname hinspected hentry =>
      have hentry' := h.entry_eq hentry (by simp)
      rw [Stop.within, Target.within_found _ (by simp), targetAt_of_some hentry']
      exact .look hname hinspected hentry'
  | @reach here name entry hname hdirectory hentry hne hlink =>
      rw [Stop.within, Target.within_found _ hne]
      by_cases htarget : name :: here = target
      · obtain rfl : asDirectory = false := by simpa using hdirectory
        subst htarget
        exact h.takesFile'.strides hname
      · have hentry' := (h.entry?_of_ne _ htarget).trans hentry
        rw [targetAt_of_some hentry']
        exact .reach hname hdirectory hentry' hne hlink
  | @miss here name hname hrefused hentry =>
      by_cases htarget : name :: here = target
      · subst htarget
        -- A file that is to be made does not have the name of a directory.
        have hcreate : intent = .create := hfree.resolve_right (by simp)
        obtain rfl : asDirectory = false := by simpa [Refused, hcreate] using hrefused
        exact h.takesFile'.strides hname
      · have hentry' := (h.entry?_of_ne _ htarget).trans hentry
        rw [Stop.within, Target.within, targetAt_of_none hentry']
        exact .miss hname hrefused hentry'

theorem walk (h : DiffersAt target tree tree')
    (hwalk : tree.walk intent links here asDirectory rest = .ok result)
    (hfree : intent = .create ∨ result ≠ .free target) :
    tree'.walk intent links here asDirectory rest = .ok (result.within tree') := by
  fun_induction FileTree.walk tree intent links here asDirectory rest with
  | case1 | case3 => cases hwalk
  | case2 links here asDirectory names found hstride =>
      cases hwalk
      exact walk_of_arrived (h.strides (stride_eq_ok_iff.1 hstride) (by simpa using hfree))
  | case4 here asDirectory names here' asDirectory' names' hstride links ih =>
      have hdetour := h.strides (stride_eq_ok_iff.1 hstride) (Or.inr (by simp))
      rw [walk_of_detour hdetour]
      exact ih hwalk

/-- **A path leads to the same place in trees that differ in one file.** -/
theorem resolve (h : DiffersAt target tree tree') (hresolve : tree.resolve intent path = .ok result)
    (hfree : intent = .create ∨ result ≠ .free target) :
    tree'.resolve intent path = .ok (result.within tree') := by
  obtain ⟨hpath, hwalk⟩ := resolve_eq_ok_iff.1 hresolve
  have hstart : tree'.start path = tree.start path := by
    rw [start, start, h.workingDirectory_eq]
  refine resolve_eq_ok_iff.2 ⟨hpath, ?_⟩
  rw [hstart]
  exact h.walk hwalk hfree

/-- A path that leads elsewhere leads to the same entry. -/
theorem resolve_found (h : DiffersAt target tree tree')
    (hresolve : tree.resolve intent path = .ok (.found location entry)) (hne : location ≠ target) :
    tree'.resolve intent path = .ok (.found location entry) := by
  rw [h.resolve hresolve (Or.inr (by simp)), Target.within_of_stands]
  rcases stands_of_resolve hresolve with hdirectory | hentry
  · exact Or.inl hdirectory
  · exact Or.inr ((h.entry?_of_ne location hne).trans hentry)

/-- A path that names a link names it in both trees. -/
theorem inspect?_link {link : Bytes} (h : DiffersAt target tree tree')
    (hlink : tree.inspect? path = some (.link link)) : tree'.inspect? path = some (.link link) := by
  unfold inspect? at hlink
  split at hlink
  · next location entry hresolve =>
    cases hlink
    have hentry : tree.entry? location = some (.link link) :=
      (stands_of_resolve hresolve).resolve_left (by simp)
    have hresolve' := h.resolve_found hresolve (h.takesFile.ne_of_entry hentry (by simp))
    rw [inspect?, hresolve']
  · cases hlink

end

end DiffersAt

/-! ### Writing through a path -/

/-- A target is a regular file at a location, or the location is free. -/
def Target.IsFileAt (location : Location) (result : Target) : Prop :=
  result = .free location ∨ ∃ old, result = .found location (.file old)

/-- **A path by which a regular file can be opened for writing**, at the given location. -/
def Creates (tree : FileTree) (path : Bytes) (location : Location) : Prop :=
  ∃ result, tree.resolve .create path = .ok result ∧ result.IsFileAt location

namespace Creates

/-- Where a file can be opened for writing, a file stands or nothing. -/
theorem takesFile (h : tree.Creates path target) : tree.TakesFile target := by
  obtain ⟨result, hresolve, hresult⟩ := h
  have hstands := stands_of_resolve hresolve
  intro entry hentry
  rcases hresult with rfl | ⟨old, rfl⟩
  · have hnone : tree.entry? target = none := hstands
    rw [hnone] at hentry
    cases hentry
  · rcases hstands with hstands | hstands
    · cases hstands
    · exact ⟨old, Option.some.inj (hentry.symm.trans hstands)⟩

theorem ne_nil (h : tree.Creates path target) : target ≠ [] :=
  h.takesFile.ne_nil

/-- A file that can be opened is opened, and is empty then. -/
theorem create_eq (h : tree.Creates path target) :
    tree.create path = .ok (target, tree.insert target (.file [])) := by
  obtain ⟨result, hresolve, hresult⟩ := h
  rcases hresult with rfl | ⟨old, rfl⟩
  · simp only [create, hresolve]
  · simp only [create, hresolve]

/-- The path leads to this place in every tree that differs there only. -/
theorem resolve_create (h : tree.Creates path target) (hdiffers : DiffersAt target tree tree') :
    tree'.resolve .create path = .ok (tree'.targetAt target) := by
  obtain ⟨result, hresolve, hresult⟩ := h
  rw [hdiffers.resolve hresolve (Or.inl rfl)]
  rcases hresult with rfl | ⟨old, rfl⟩
  · rfl
  · rfl

/-- **What is written through a path is read back through it.** -/
theorem resolve_read (h : tree.Creates path target) (content : Bytes) :
    (tree.insert target (.file content)).resolve .read path =
      .ok (.found target (.file content)) := by
  have hresolve := h.resolve_create (.insert h.takesFile content)
  rw [targetAt_of_some (entry?_insert_self tree _ h.ne_nil)] at hresolve
  exact resolve_read_of_create hresolve

/-- **Whoever inspects the path finds the file**, or that nothing is there, unless the path names a
link. -/
theorem resolve_inspect (h : tree.Creates path target) (hdiffers : DiffersAt target tree tree')
    (hlink : ∀ link, tree'.inspect? path ≠ some (.link link)) :
    tree'.resolve .inspect path = .ok (tree'.targetAt target) := by
  rcases resolve_inspect_of_create (h.resolve_create hdiffers) with
    hinspect | ⟨location, link, hinspect⟩
  · exact hinspect
  · exact absurd (by rw [inspect?, hinspect]) (hlink link)

end Creates

/-! ### Ordinary trees -/

/-- Directories, files and links. -/
def Entry.isOrdinary : Entry → Bool
  | .directory | .file _ | .link _ => true
  | .nullDevice | .fullDevice | .systemFile => false

/-- **A tree of directories, files and links**, without anything that belongs to the system. -/
def IsOrdinary (tree : FileTree) : Prop :=
  ∀ location entry, tree.entry? location = some entry → entry.isOrdinary = true

theorem isOrdinary_of_entries (h : ∀ entry ∈ tree.entries, entry.2.isOrdinary = true) :
    tree.IsOrdinary := by
  intro location entry hentry
  cases location with
  | nil =>
      cases hentry
      rfl
  | cons name outer =>
      have hlookup : tree.entries.lookup (name :: outer) = some entry := hentry
      obtain ⟨before, after, hentries, -⟩ := List.lookup_eq_some_iff.1 hlookup
      exact h (name :: outer, entry) (by simp [hentries])

/-- In an ordinary tree only regular files are opened for writing. -/
theorem IsOrdinary.creates (h : tree.IsOrdinary)
    (hcreate : tree.create path = .ok (target, tree')) : tree.Creates path target := by
  unfold create at hcreate
  split at hcreate
  · cases hcreate
  · next location hresolve =>
    cases hcreate
    exact ⟨_, hresolve, Or.inl rfl⟩
  · cases hcreate
  · next location content hresolve =>
    cases hcreate
    exact ⟨_, hresolve, Or.inr ⟨content, rfl⟩⟩
  · next location entry hdirectory hfile hresolve =>
    -- What is left is a device, which an ordinary tree does not have.
    have hentry : tree.entry? location = some entry :=
      (stands_of_resolve hresolve).resolve_left hdirectory
    have hordinary := h location entry hentry
    cases entry with
    | directory => exact absurd rfl hdirectory
    | file content => exact absurd rfl (hfile content)
    | link link => exact absurd rfl (ne_link_of_resolve hresolve (by simp) link)
    | nullDevice | fullDevice | systemFile => cases hordinary

end OnePass.FileTree
