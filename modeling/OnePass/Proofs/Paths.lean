import OnePass.Files.Access

/-
**Where paths lead.**

A path is followed name by name: directories are entered, links are followed, and the way ends at
anything else, or at a name that is free.  This module says so once, as rules, and derives from them
what holds of every path.

A path leads to what is there.  What it is followed for matters at its end only: a path by which a
file can be made is read at the same place, and whoever inspects it stops there, too, or at the last
link in front of it.

Main definitions:

* `OnePass.FileTree.Strides` — **following names up to a link**, one rule for each kind of entry;
* `OnePass.FileTree.Target.Stands` — a target is as the tree has it.

Main results:

* `OnePass.FileTree.stride_eq_ok_iff` — names are followed by these rules;
* `OnePass.FileTree.stands_of_resolve` — **a path leads to what is there**;
* `OnePass.FileTree.resolve_read_of_create`, `OnePass.FileTree.resolve_inspect_of_create` — what is
  found if a path by which a file can be made is followed for something else.
-/

set_option relaxedAutoImplicit false
set_option autoImplicit false

namespace OnePass.FileTree

open Bytes (ofString)

variable {tree : FileTree} {location here : Location} {entry : Entry} {path : Bytes}

/-! ### Following names -/

/-- A name that stands for an entry: neither of the dots, and not too long. -/
structure IsName (name : Bytes) : Prop where
  ne_dot : name ≠ ofString "."
  ne_dots : name ≠ ofString ".."
  length_le : ¬ maxName < name.length

/-- The name of a directory is refused where a file is to be made. -/
abbrev Refused (intent : Intent) (asDirectory : Bool) (rest : List Bytes) : Prop :=
  intent = .create ∧ rest = [] ∧ asDirectory = true

/-- A link that is looked at and not followed. -/
abbrev Inspected (intent : Intent) (asDirectory : Bool) (rest : List Bytes) : Prop :=
  intent = .inspect ∧ rest = [] ∧ ¬ asDirectory = true

/-- **Following names up to the first link** that has to be followed, one rule for each kind of
entry. -/
inductive Strides (tree : FileTree) (intent : Intent) (asDirectory : Bool) :
    Location → List Bytes → Stop → Prop where
  /-- The end of the path. -/
  | stay (here : Location) :
      Strides tree intent asDirectory here [] (.arrived (.found here .directory))
  /-- The directory itself. -/
  | dot {here : Location} {rest : List Bytes} {stop : Stop} :
      Strides tree intent asDirectory here rest stop →
      Strides tree intent asDirectory here (ofString "." :: rest) stop
  /-- The directory around it. -/
  | dots {here : Location} {rest : List Bytes} {stop : Stop} :
      Strides tree intent asDirectory here.tail rest stop →
      Strides tree intent asDirectory here (ofString ".." :: rest) stop
  /-- A directory is entered. -/
  | enter {here : Location} {name : Bytes} {rest : List Bytes} {stop : Stop} :
      IsName name → ¬ Refused intent asDirectory rest →
      tree.entry? (name :: here) = some .directory →
      Strides tree intent asDirectory (name :: here) rest stop →
      Strides tree intent asDirectory here (name :: rest) stop
  /-- A link is followed. -/
  | follow {here : Location} {name link : Bytes} {rest : List Bytes} :
      IsName name → ¬ Refused intent asDirectory rest → ¬ Inspected intent asDirectory rest →
      tree.entry? (name :: here) = some (.link link) →
      Strides tree intent asDirectory here (name :: rest)
        (.detour (if isAbsolute link then [] else here)
          (asDirectory || (rest.isEmpty && endsWithSlash link)) (names link ++ rest))
  /-- A link is looked at. -/
  | look {here : Location} {name link : Bytes} :
      IsName name → Inspected intent asDirectory [] →
      tree.entry? (name :: here) = some (.link link) →
      Strides tree intent asDirectory here [name] (.arrived (.found (name :: here) (.link link)))
  /-- Something else is reached. -/
  | reach {here : Location} {name : Bytes} {entry : Entry} :
      IsName name → ¬ asDirectory = true → tree.entry? (name :: here) = some entry →
      entry ≠ .directory → (∀ link, entry ≠ .link link) →
      Strides tree intent asDirectory here [name] (.arrived (.found (name :: here) entry))
  /-- Nothing has the name. -/
  | miss {here : Location} {name : Bytes} :
      IsName name → ¬ Refused intent asDirectory [] → tree.entry? (name :: here) = none →
      Strides tree intent asDirectory here [name] (.arrived (.free (name :: here)))

section

variable {intent : Intent} {asDirectory : Bool} {rest : List Bytes} {stop : Stop}

theorem strides_of_stride (h : tree.stride intent here asDirectory rest = .ok stop) :
    tree.Strides intent asDirectory here rest stop := by
  fun_induction stride tree intent here asDirectory rest with
  | case1 here =>
      cases h
      exact .stay here
  | case2 here rest ih => exact .dot (ih h)
  | case3 here rest hdot ih => exact .dots (ih h)
  | case6 here name hdot hdots hlength hentry hcreate =>
      cases h
      exact .miss ⟨hdot, hdots, hlength⟩ hcreate hentry
  | case8 here name rest hdot hdots hcreate hlength hentry ih =>
      exact .enter ⟨hdot, hdots, hlength⟩ hcreate hentry (ih h)
  | case9 here name rest hdot hdots hcreate hlength link hentry hinspect =>
      cases h
      obtain ⟨rfl, rfl, hdirectory⟩ := hinspect
      exact .look ⟨hdot, hdots, hlength⟩ ⟨rfl, rfl, hdirectory⟩ hentry
  | case10 here name rest hdot hdots hcreate hlength link hentry hinspect =>
      cases h
      exact .follow ⟨hdot, hdots, hlength⟩ hcreate hinspect hentry
  | case11 here name rest hdot hdots hcreate hlength entry hdirectory hlink hentry hlast =>
      cases h
      obtain ⟨rfl, hlast⟩ := hlast
      exact .reach ⟨hdot, hdots, hlength⟩ hlast hentry hdirectory hlink
  | case4 | case5 | case7 | case12 => cases h

theorem stride_of_strides (h : tree.Strides intent asDirectory here rest stop) :
    tree.stride intent here asDirectory rest = .ok stop := by
  -- Every rule passes the tests in front of its own.
  induction h with
  | stay here => rfl
  | dot h ih => rw [stride, if_pos rfl, ih]
  | dots h ih => rw [stride, if_neg (by decide), if_pos rfl, ih]
  | enter hname hrefused hentry h ih =>
      rw [stride, if_neg hname.ne_dot, if_neg hname.ne_dots, if_neg hrefused,
        if_neg hname.length_le, hentry]
      exact ih
  | follow hname hrefused hinspected hentry =>
      rw [stride, if_neg hname.ne_dot, if_neg hname.ne_dots, if_neg hrefused,
        if_neg hname.length_le, hentry]
      exact if_neg hinspected
  | look hname hinspected hentry =>
      have hrefused : ¬ Refused intent asDirectory [] := fun h => hinspected.2.2 h.2.2
      rw [stride, if_neg hname.ne_dot, if_neg hname.ne_dots, if_neg hrefused,
        if_neg hname.length_le, hentry]
      exact if_pos hinspected
  | reach hname hdirectory hentry hne hlink =>
      have hrefused : ¬ Refused intent asDirectory [] := fun h => hdirectory h.2.2
      rw [stride, if_neg hname.ne_dot, if_neg hname.ne_dots, if_neg hrefused,
        if_neg hname.length_le, hentry]
      split
      · next heq => cases heq
      · next heq => exact absurd (Option.some.inj heq) hne
      · next link heq => exact absurd (Option.some.inj heq) (hlink link)
      · next heq =>
        cases heq
        exact if_pos ⟨rfl, hdirectory⟩
  | miss hname hrefused hentry =>
      rw [stride, if_neg hname.ne_dot, if_neg hname.ne_dots, if_neg hrefused,
        if_neg hname.length_le, hentry]
      exact if_pos rfl

/-- **Names are followed by these rules.** -/
theorem stride_eq_ok_iff :
    tree.stride intent here asDirectory rest = .ok stop ↔
      tree.Strides intent asDirectory here rest stop :=
  ⟨strides_of_stride, stride_of_strides⟩

end

/-! ### Following links -/

section

variable {intent : Intent} {asDirectory : Bool} {rest : List Bytes} {links : Nat} {result : Target}

theorem walk_of_arrived (h : tree.Strides intent asDirectory here rest (.arrived result)) :
    tree.walk intent links here asDirectory rest = .ok result := by
  rw [walk, stride_eq_ok_iff.2 h]

theorem walk_of_detour {here' : Location} {asDirectory' : Bool} {rest' : List Bytes}
    (h : tree.Strides intent asDirectory here rest (.detour here' asDirectory' rest')) :
    tree.walk intent (links + 1) here asDirectory rest =
      tree.walk intent links here' asDirectory' rest' := by
  rw [walk, stride_eq_ok_iff.2 h]

/-- A path that can be followed at all. -/
structure IsPath (path : Bytes) : Prop where
  not_contains : ¬ path.contains 0 = true
  ne_nil : path ≠ []
  length_le : ¬ maxPath < path.length

/-- The directory in which a path begins. -/
def start (tree : FileTree) (path : Bytes) : Location :=
  if isAbsolute path then [] else tree.workingDirectory

theorem resolve_eq_ok_iff :
    tree.resolve intent path = .ok result ↔
      IsPath path ∧
        tree.walk intent maxLinks (tree.start path) (endsWithSlash path) (names path) =
          .ok result := by
  constructor
  · intro h
    unfold resolve at h
    split at h
    · cases h
    · next hzero =>
      split at h
      · cases h
      · next hempty =>
        split at h
        · cases h
        · next hlength => exact ⟨⟨hzero, hempty, hlength⟩, h⟩
  · rintro ⟨hpath, h⟩
    rw [resolve, if_neg hpath.not_contains, if_neg hpath.ne_nil, if_neg hpath.length_le]
    exact h

/-! ### Where paths lead -/

/-- **A target is as the tree has it.**  Of directories nothing is said, since a path may begin in a
working directory that is no longer there. -/
def Target.Stands (tree : FileTree) : Target → Prop
  | .found location entry => entry = .directory ∨ tree.entry? location = some entry
  | .free location => tree.entry? location = none

theorem Strides.stands (h : tree.Strides intent asDirectory here rest (.arrived result)) :
    result.Stands tree := by
  generalize hstop : Stop.arrived result = stop at h
  induction h with
  | stay here =>
      cases hstop
      exact Or.inl rfl
  | dot h ih => exact ih hstop
  | dots h ih => exact ih hstop
  | enter hname hrefused hentry h ih => exact ih hstop
  | follow => cases hstop
  | look hname hinspected hentry =>
      cases hstop
      exact Or.inr hentry
  | reach hname hdirectory hentry hne hlink =>
      cases hstop
      exact Or.inr hentry
  | miss hname hrefused hentry =>
      cases hstop
      exact hentry

/-- Only whoever inspects a path finds a link. -/
theorem Strides.ne_link (hintent : intent ≠ .inspect)
    (h : tree.Strides intent asDirectory here rest (.arrived (.found location entry)))
    (link : Bytes) : entry ≠ .link link := by
  generalize hstop : Stop.arrived (.found location entry) = stop at h
  induction h with
  | stay here =>
      cases hstop
      simp
  | dot h ih => exact ih hstop
  | dots h ih => exact ih hstop
  | enter hname hrefused hentry h ih => exact ih hstop
  | follow | miss => cases hstop
  | look hname hinspected hentry => exact absurd hinspected.1 hintent
  | reach hname hdirectory hentry hne hlink =>
      cases hstop
      exact hlink link

/-- Behind its last link a path is a list of names. -/
theorem exists_strides_of_walk (h : tree.walk intent links here asDirectory rest = .ok result) :
    ∃ here asDirectory rest, tree.Strides intent asDirectory here rest (.arrived result) := by
  fun_induction walk tree intent links here asDirectory rest with
  | case1 | case3 => cases h
  | case2 links here asDirectory names found hstride =>
      cases h
      exact ⟨here, asDirectory, names, stride_eq_ok_iff.1 hstride⟩
  | case4 here asDirectory names here' asDirectory' names' hstride links ih => exact ih h

theorem exists_strides_of_resolve (h : tree.resolve intent path = .ok result) :
    ∃ here asDirectory rest, tree.Strides intent asDirectory here rest (.arrived result) :=
  exists_strides_of_walk (resolve_eq_ok_iff.1 h).2

/-- **A path leads to what is there.** -/
theorem stands_of_resolve (h : tree.resolve intent path = .ok result) : result.Stands tree := by
  obtain ⟨here, asDirectory, rest, hstrides⟩ := exists_strides_of_resolve h
  exact hstrides.stands

theorem ne_link_of_resolve (h : tree.resolve intent path = .ok (.found location entry))
    (hintent : intent ≠ .inspect) (link : Bytes) : entry ≠ .link link := by
  obtain ⟨here, asDirectory, rest, hstrides⟩ := exists_strides_of_resolve h
  exact hstrides.ne_link hintent link

/-- What is found at a location. -/
def targetAt (tree : FileTree) (location : Location) : Target :=
  match tree.entry? location with
  | some entry => .found location entry
  | none => .free location

theorem targetAt_of_some (h : tree.entry? location = some entry) :
    tree.targetAt location = .found location entry := by
  rw [targetAt, h]

theorem targetAt_of_none (h : tree.entry? location = none) :
    tree.targetAt location = .free location := by
  rw [targetAt, h]

end

/-! ### What a path is followed for -/

section

variable {asDirectory : Bool} {rest : List Bytes} {stop : Stop} {links : Nat} {result : Target}

/-- Names by which a file can be made are read alike. -/
theorem Strides.read (h : tree.Strides .create asDirectory here rest stop) :
    tree.Strides .read asDirectory here rest stop := by
  induction h with
  | stay here => exact .stay here
  | dot h ih => exact .dot ih
  | dots h ih => exact .dots ih
  | enter hname hrefused hentry h ih => exact .enter hname (by simp [Refused]) hentry ih
  | follow hname hrefused hinspected hentry =>
      exact .follow hname (by simp [Refused]) (by simp [Inspected]) hentry
  | look hname hinspected hentry => exact absurd hinspected.1 (by simp)
  | reach hname hdirectory hentry hne hlink => exact .reach hname hdirectory hentry hne hlink
  | miss hname hrefused hentry => exact .miss hname (by simp [Refused]) hentry

/-- Whoever inspects them stops at the same place, or at a link. -/
theorem Strides.inspect (h : tree.Strides .create asDirectory here rest stop) :
    tree.Strides .inspect asDirectory here rest stop ∨
      ∃ location link,
        tree.Strides .inspect asDirectory here rest (.arrived (.found location (.link link))) := by
  have hrefused : ∀ rest, ¬ Refused .inspect asDirectory rest := by simp [Refused]
  induction h with
  | stay here => exact Or.inl (.stay here)
  | dot h ih => exact ih.imp .dot fun ⟨location, link, h⟩ => ⟨location, link, .dot h⟩
  | dots h ih => exact ih.imp .dots fun ⟨location, link, h⟩ => ⟨location, link, .dots h⟩
  | enter hname _ hentry h ih =>
      exact ih.imp (.enter hname (hrefused _) hentry) fun ⟨location, link, h⟩ =>
        ⟨location, link, .enter hname (hrefused _) hentry h⟩
  | @follow here name link rest hname _ _ hentry =>
      -- The last link of a path is where an inspection stops.
      by_cases hinspected : Inspected .inspect asDirectory rest
      · obtain ⟨-, rfl, hdirectory⟩ := hinspected
        exact Or.inr ⟨_, link, .look hname ⟨rfl, rfl, hdirectory⟩ hentry⟩
      · exact Or.inl (.follow hname (hrefused rest) hinspected hentry)
  | look hname hinspected hentry => exact absurd hinspected.1 (by simp)
  | reach hname hdirectory hentry hne hlink =>
      exact Or.inl (.reach hname hdirectory hentry hne hlink)
  | miss hname _ hentry => exact Or.inl (.miss hname (hrefused []) hentry)

theorem walk_read (h : tree.walk .create links here asDirectory rest = .ok result) :
    tree.walk .read links here asDirectory rest = .ok result := by
  fun_induction walk tree .create links here asDirectory rest with
  | case1 | case3 => cases h
  | case2 links here asDirectory names found hstride =>
      cases h
      exact walk_of_arrived (stride_eq_ok_iff.1 hstride).read
  | case4 here asDirectory names here' asDirectory' names' hstride links ih =>
      rw [walk_of_detour (stride_eq_ok_iff.1 hstride).read]
      exact ih h

theorem walk_inspect (h : tree.walk .create links here asDirectory rest = .ok result) :
    tree.walk .inspect links here asDirectory rest = .ok result ∨
      ∃ location link,
        tree.walk .inspect links here asDirectory rest = .ok (.found location (.link link)) := by
  fun_induction walk tree .create links here asDirectory rest with
  | case1 | case3 => cases h
  | case2 links here asDirectory names found hstride =>
      cases h
      exact (stride_eq_ok_iff.1 hstride).inspect.imp walk_of_arrived
        fun ⟨location, link, h⟩ => ⟨location, link, walk_of_arrived h⟩
  | case4 here asDirectory names here' asDirectory' names' hstride links ih =>
      rcases (stride_eq_ok_iff.1 hstride).inspect with hdetour | ⟨location, link, hlink⟩
      · rw [walk_of_detour hdetour]
        exact ih h
      · exact Or.inr ⟨location, link, walk_of_arrived hlink⟩

theorem resolve_read_of_create (h : tree.resolve .create path = .ok result) :
    tree.resolve .read path = .ok result := by
  obtain ⟨hpath, hwalk⟩ := resolve_eq_ok_iff.1 h
  exact resolve_eq_ok_iff.2 ⟨hpath, walk_read hwalk⟩

theorem resolve_inspect_of_create (h : tree.resolve .create path = .ok result) :
    tree.resolve .inspect path = .ok result ∨
      ∃ location link, tree.resolve .inspect path = .ok (.found location (.link link)) := by
  obtain ⟨hpath, hwalk⟩ := resolve_eq_ok_iff.1 h
  exact (walk_inspect hwalk).imp (fun hinspect => resolve_eq_ok_iff.2 ⟨hpath, hinspect⟩)
    fun ⟨location, link, hinspect⟩ => ⟨location, link, resolve_eq_ok_iff.2 ⟨hpath, hinspect⟩⟩

end

end OnePass.FileTree
