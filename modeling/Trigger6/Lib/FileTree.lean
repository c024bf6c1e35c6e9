/-
This file is a small library about trees of files with symbolic links, as a Unix
system looks paths up in them: every link on the way is followed, up to a number
of them, and the last component is followed or not, depending on the call.

The main lemma is about paths without links. Where no component of a path is a
link, looking it up is looking at its place.
-/

import Mathlib.Data.List.Basic
import Mathlib.Data.List.Induction

namespace FileTree

/-! ### Trees -/

/-- The components of a path. -/
abbrev Path := List (List Char)

/-- What an entry of a directory is. -/
inductive Kind
  | file (bytes : List UInt8)
  | directory
  | link (absolute : Bool) (target : Path)
  | special
  deriving DecidableEq

/-- An entry with its permission bits, the three special ones included, and its owner. -/
structure Entry where
  kind : Kind
  mode : Nat
  owner : Nat
  deriving DecidableEq

def Entry.isLink (entry : Entry) : Bool :=
  match entry.kind with
  | .link _ _ => true
  | _ => false

def Entry.isDirectory (entry : Entry) : Bool :=
  match entry.kind with
  | .directory => true
  | _ => false

/-- The entries by their places below the root of the file system. -/
abbrev Tree := Path → Option Entry

/-- The component that stands for the directory above. -/
def above : List Char := ['.', '.']

variable (tree : Tree)

/-- The entry of a place under a name, if the place is a directory. -/
def entryAt (place : Path) (name : List Char) : Option Entry :=
  (tree place).bind fun directory =>
    if directory.isDirectory then tree (place ++ [name]) else none

/-- The directory above a place, if the place is a directory. -/
def upFrom (place : Path) : Option Path :=
  (tree place).bind fun directory => if directory.isDirectory then some place.dropLast else none

/-- Goes on to a name. A link is replaced by its target, as long as links may still be followed;
the first argument bounds how deep links can lead to links. -/
def enter : (depth : Nat) → (at_ : Path × Nat) → (name : List Char) → Option (Path × Nat)
  | depth, (place, links), name =>
    if name = above then (upFrom tree place).map fun up => (up, links)
    else
      match entryAt tree place name with
      | none => none
      | some entry =>
        match entry.kind, depth, links with
        | .link absolute target, depth + 1, links + 1 =>
          target.foldlM (enter depth) (if absolute then [] else place, links)
        | .link _ _, _, _ => none
        | _, _, _ => some (place ++ [name], links)

/-- Follows a path from a place on. -/
def follow (at_ : Path × Nat) (path : Path) : Option (Path × Nat) := path.foldlM (enter tree 40) at_

/-- The place a path leads to, all links followed. -/
def resolve (path : Path) : Option Path := (follow tree ([], 40) path).map Prod.fst

/-- The entry of a path, all links followed. -/
def stat (path : Path) : Option Entry := (resolve tree path).bind tree

/-- The entry of a path; its last component is not followed. -/
def lstat (path : Path) : Option Entry :=
  match path.getLast? with
  | none => tree []
  | some name =>
    (resolve tree path.dropLast).bind fun place =>
      if name = above then (upFrom tree place).bind tree else entryAt tree place name

/-! ### Paths without links -/

variable {tree}

theorem follow_append (at_ : Path × Nat) (first second : Path) :
    follow tree at_ (first ++ second) = (follow tree at_ first).bind fun there =>
      follow tree there second :=
  List.foldlM_append

theorem lstat_concat (path : Path) (name : List Char) : lstat tree (path ++ [name]) =
    (resolve tree path).bind fun place =>
      if name = above then (upFrom tree place).bind tree else entryAt tree place name := by
  rw [lstat, List.getLast?_concat, List.dropLast_concat]

theorem enter_plain {depth links : Nat} {place : Path} {name : List Char} {entry : Entry}
    (ordinary : name ≠ above) (found : entryAt tree place name = some entry)
    (plain : entry.isLink = false) :
    enter tree depth (place, links) name = some (place ++ [name], links) := by
  obtain ⟨kind, mode, owner⟩ := entry
  cases depth <;> cases links <;> rw [enter, if_neg ordinary, found] <;> cases kind <;>
    first | rfl | cases plain

/-- A path that has no link, from a place on: every part of it exists and is none. -/
def Plain (tree : Tree) (start rest : Path) : Prop :=
  ∀ part, part <+: rest → ∃ entry, lstat tree (start ++ part) = some entry ∧ entry.isLink = false

theorem Plain.start {start rest : Path} (plain : Plain tree start rest) :
    ∃ entry, lstat tree start = some entry ∧ entry.isLink = false := by
  have first := plain [] List.nil_prefix
  rwa [List.append_nil] at first

/-- A path that exists and is no link has a place, and its entry is the one there. -/
theorem resolve_of_lstat {path : Path} {entry : Entry} (found : lstat tree path = some entry)
    (plain : entry.isLink = false) :
    ∃ place links, follow tree ([], 40) path = some (place, links) ∧ tree place = some entry := by
  rcases List.eq_nil_or_concat' path with rfl | ⟨front, name, rfl⟩
  · exact ⟨[], 40, rfl, found⟩
  · rw [lstat_concat] at found
    cases led : follow tree ([], 40) front with
    | none =>
      rw [resolve, led] at found
      cases found
    | some there =>
      obtain ⟨place, links⟩ := there
      rw [resolve, led] at found
      rw [follow_append, led]
      show ∃ place' links', [name].foldlM (enter tree 40) (place, links) = some (place', links') ∧
        tree place' = some entry
      rw [List.foldlM_cons]
      by_cases up : name = above
      · obtain ⟨parent, isParent, at_⟩ := Option.bind_eq_some_iff.1 ((if_pos up).symm.trans found)
        refine ⟨parent, links, ?_, at_⟩
        rw [enter, if_pos up, isParent]
        rfl
      · have named : entryAt tree place name = some entry := (if_neg up).symm.trans found
        refine ⟨place ++ [name], links, ?_, ?_⟩
        · rw [enter_plain up named plain]
          rfl
        · obtain ⟨directory, -, holds⟩ := Option.bind_eq_some_iff.1 named
          by_cases isDirectory : directory.isDirectory = true
          · exact (if_pos isDirectory).symm.trans holds
          · cases (if_neg isDirectory).symm.trans holds

/-- For what is no link, it does not matter whether a last link is followed. -/
theorem stat_of_lstat {path : Path} {entry : Entry} (found : lstat tree path = some entry)
    (plain : entry.isLink = false) : stat tree path = some entry := by
  obtain ⟨place, links, led, at_⟩ := resolve_of_lstat found plain
  rw [stat, resolve, led]
  exact at_

/-- What a path goes on from is a directory. -/
theorem directory_of_lstat {path : Path} {name : List Char} {entry above_ : Entry}
    (found : lstat tree (path ++ [name]) = some entry) (first : lstat tree path = some above_)
    (plain : above_.isLink = false) : above_.isDirectory = true := by
  obtain ⟨place, links, led, at_⟩ := resolve_of_lstat first plain
  rw [lstat_concat, resolve, led] at found
  by_cases isDirectory : above_.isDirectory = true
  · exact isDirectory
  · have nowhere : (if name = above then (upFrom tree place).bind tree
        else entryAt tree place name) = none := by
      have noUp : upFrom tree place = none := by
        rw [upFrom, at_]
        exact if_neg isDirectory
      have noEntry : entryAt tree place name = none := by
        rw [entryAt, at_]
        exact if_neg isDirectory
      rw [noUp, noEntry]
      exact ite_self _
    cases found.symm.trans nowhere

/-- Where a path has no link, its parts are at their places below its start. -/
theorem Plain.follow {start rest : Path} (ordinary : above ∉ rest)
    (plain : Plain tree start rest) {place : Path} {links : Nat}
    (begun : follow tree ([], 40) start = some (place, links)) :
    FileTree.follow tree ([], 40) (start ++ rest) = some (place ++ rest, links) ∧
      tree (place ++ rest) = lstat tree (start ++ rest) := by
  induction rest using List.reverseRecOn with
  | nil =>
    obtain ⟨entry, found, isPlain⟩ := plain.start
    rw [List.append_nil, List.append_nil]
    obtain ⟨there, left, led, at_⟩ := resolve_of_lstat found isPlain
    obtain ⟨rfl, rfl⟩ := Prod.mk.inj (Option.some.inj (led.symm.trans begun))
    exact ⟨begun, at_.trans found.symm⟩
  | append_singleton front name inductionHypothesis =>
    have shorter : Plain tree start front := fun part begins =>
      plain part (begins.trans (List.prefix_append front [name]))
    obtain ⟨led, -⟩ := inductionHypothesis
      (fun member => ordinary (List.mem_append_left _ member)) shorter
    obtain ⟨entry, found, isPlain⟩ := plain (front ++ [name]) (List.prefix_refl _)
    rw [← List.append_assoc] at found ⊢
    obtain ⟨there, left, reached, at_⟩ := resolve_of_lstat found isPlain
    have next : FileTree.follow tree ([], 40) (start ++ front ++ [name]) =
        some (place ++ front ++ [name], links) := by
      have different : name ≠ above := fun same =>
        ordinary (same ▸ List.mem_append_right _ List.mem_cons_self)
      have named : entryAt tree (place ++ front) name = some entry := by
        rw [lstat_concat, resolve, led] at found
        exact (if_neg different).symm.trans found
      rw [follow_append, led]
      show [name].foldlM (enter tree 40) (place ++ front, links) = _
      rw [List.foldlM_cons, enter_plain different named isPlain]
      rfl
    obtain ⟨rfl, rfl⟩ := Prod.mk.inj (Option.some.inj (reached.symm.trans next))
    rw [← List.append_assoc]
    exact ⟨next, at_.trans found.symm⟩

/-- A path from the root of the file system that has no link is its own place, in every tree that
has the same entries on the way. -/
theorem Plain.congr {tree' : Tree} {path : Path} (ordinary : above ∉ path)
    (plain : Plain tree [] path) (same : ∀ part, part <+: path → tree' part = tree part) :
    FileTree.follow tree' ([], 40) path = some (path, 40) ∧ lstat tree' path = lstat tree path := by
  induction path using List.reverseRecOn with
  | nil => exact ⟨rfl, same [] List.nil_prefix⟩
  | append_singleton front name inductionHypothesis =>
    have shorter : front <+: front ++ [name] := List.prefix_append front [name]
    have usual : above ∉ front := fun member => ordinary (List.mem_append_left _ member)
    have before : Plain tree [] front := fun part begins => plain part (begins.trans shorter)
    obtain ⟨led', -⟩ := inductionHypothesis usual before
      fun part begins => same part (begins.trans shorter)
    obtain ⟨led, -⟩ := before.follow usual (show FileTree.follow tree ([], 40) [] = some ([], 40) from rfl)
    have different : name ≠ above := fun same =>
      ordinary (same ▸ List.mem_append_right _ List.mem_cons_self)
    have entries : entryAt tree' front name = entryAt tree front name := by
      rw [entryAt, entryAt, same front shorter, same _ (List.prefix_refl _)]
    obtain ⟨entry, found, isPlain⟩ := plain (front ++ [name]) (List.prefix_refl _)
    have named : lstat tree (front ++ [name]) = entryAt tree front name := by
      rw [lstat_concat, resolve, show FileTree.follow tree ([], 40) front = _ from led]
      exact if_neg different
    constructor
    · rw [follow_append, led']
      show [name].foldlM (enter tree' 40) (front, 40) = _
      rw [List.foldlM_cons,
        enter_plain different (entries.trans (named.symm.trans found)) isPlain]
      rfl
    · rw [named, ← entries, lstat_concat, resolve, led']
      exact if_neg different

/-! ### Paths through directories -/

theorem Entry.not_link_of_isDirectory {entry : Entry} (isDirectory : entry.isDirectory = true) :
    entry.isLink = false := by
  obtain ⟨kind, mode, owner⟩ := entry
  cases kind <;> first | rfl | cases isDirectory

/-- The entry under a name in a directory. -/
theorem entryAt_of_directory {place : Path} {name : List Char} {directory : Entry}
    (here : tree place = some directory) (isDirectory : directory.isDirectory = true) :
    entryAt tree place name = tree (place ++ [name]) := by
  rw [entryAt, here]
  exact if_pos isDirectory

/-- From the root of the file system, directories lead to their own places. -/
theorem follow_of_directories {path : Path} (ordinary : above ∉ path)
    (directories : ∀ part, part <+: path →
      ∃ entry, tree part = some entry ∧ entry.isDirectory = true) :
    follow tree ([], 40) path = some (path, 40) := by
  induction path using List.reverseRecOn with
  | nil => rfl
  | append_singleton front name inductionHypothesis =>
    have led := inductionHypothesis (fun member => ordinary (List.mem_append_left _ member))
      fun part begins => directories part (begins.trans (List.prefix_append front [name]))
    have different : name ≠ above := fun same =>
      ordinary (same ▸ List.mem_append_right _ List.mem_cons_self)
    obtain ⟨directory, here, isDirectory⟩ := directories front (List.prefix_append front [name])
    obtain ⟨entry, found, next⟩ := directories (front ++ [name]) (List.prefix_refl _)
    rw [follow_append, led]
    show [name].foldlM (enter tree 40) (front, 40) = _
    rw [List.foldlM_cons, enter_plain different
      ((entryAt_of_directory here isDirectory).trans found) (Entry.not_link_of_isDirectory next)]
    rfl

/-- So the entry of a path through directories is the one at its place. -/
theorem lstat_of_directories {path : Path} (ordinary : above ∉ path)
    (directories : ∀ part, part <+: path → part ≠ path →
      ∃ entry, tree part = some entry ∧ entry.isDirectory = true) :
    lstat tree path = tree path := by
  rcases List.eq_nil_or_concat' path with rfl | ⟨front, name, rfl⟩
  · rfl
  · have before : ∀ part, part <+: front →
        ∃ entry, tree part = some entry ∧ entry.isDirectory = true := by
      intro part begins
      refine directories part (begins.trans (List.prefix_append front [name])) fun same => ?_
      have shorter := begins.length_le
      rw [same, List.length_append, List.length_singleton] at shorter
      exact absurd shorter (Nat.not_succ_le_self _)
    have led := follow_of_directories
      (fun member => ordinary (List.mem_append_left _ member)) before
    have different : name ≠ above := fun same =>
      ordinary (same ▸ List.mem_append_right _ List.mem_cons_self)
    obtain ⟨directory, here, isDirectory⟩ := before front (List.prefix_refl _)
    rw [lstat_concat, resolve, led]
    exact (if_neg different).trans (entryAt_of_directory here isDirectory)

end FileTree
