/-
This file proves that the two ends of the manifest agree: a tree bears out the
manifest that `manifest.collect` makes of it. The names of the manifest spell
the paths they come from, so that no two of them are the same, and every entry
holds what `verify` reads again.
-/

import Mathlib.Data.List.Nodup
import Trigger6.Packaging.Scope

namespace Trigger6.Packaging

open Controller FileTree Text

/-! ### Names of paths -/

/-- A component that a text can spell. -/
def Spellable (component : List Char) : Prop :=
  keptComponent component = [component] ∧ '/' ∉ component

theorem componentsFrom_plain {component : List Char} (plain : '/' ∉ component)
    (read rest : List Char) :
    componentsFrom read (component ++ rest) = componentsFrom (read ++ component) rest := by
  induction component generalizing read with
  | nil => rw [List.nil_append, List.append_nil]
  | cons symbol component inductionHypothesis =>
    obtain ⟨other, plain⟩ := not_or.1 (mt List.mem_cons.2 plain)
    rw [List.cons_append, componentsFrom, inductionHypothesis plain, List.append_assoc,
      List.singleton_append]
    exact fun same => other same.symm

/-- The name of a path spells the path. -/
theorem components_asPosix {path : Path} (spellable : ∀ component ∈ path, Spellable component) :
    components (asPosix path) = path := by
  rw [components, asPosix, String.toList_ofList]
  induction path with
  | nil => rfl
  | cons component rest inductionHypothesis =>
    obtain ⟨⟨kept, plain⟩, others⟩ := List.forall_mem_cons.1 spellable
    have alone : componentsFrom [] component = [component] := by
      rw [← List.append_nil component, componentsFrom_plain plain, List.append_nil]
      exact kept
    cases rest with
    | nil => rwa [List.intercalate_singleton]
    | cons next rest =>
      rw [List.intercalate_cons_cons, List.append_assoc, List.singleton_append,
        componentsFrom_slash, alone, inductionHypothesis others, List.singleton_append]

/-! ### Collected entries -/

variable {python : Python} {tree : Tree} {root : Path} {owner : Nat}

/-- What is collected of a path: the entry of a file, or nothing. -/
theorem collectPath_eq_ok {path : Path} {found : List PyValue}
    (collected : collectPath python tree root path = .ok found) :
    found = [] ∨ ∃ bytes mode uid, stat tree path = some ⟨.file bytes, mode, uid⟩ ∧
      found = [manifestItem python (path.drop root.length) bytes mode] := by
  obtain ⟨-, collected⟩ := guard_eq_ok.1 collected
  match entry : stat tree path with
  | some ⟨.file bytes, mode, uid⟩ =>
    rw [entry] at collected
    dsimp only at collected
    by_cases own : asPosix (path.drop root.length) = manifest
    · rw [if_pos own] at collected
      exact Or.inl (Except.ok.inj collected).symm
    · rw [if_neg own] at collected
      exact Or.inr ⟨bytes, mode, uid, rfl, (Except.ok.inj collected).symm⟩
  | none | some ⟨.directory, _, _⟩ | some ⟨.link _ _, _, _⟩ | some ⟨.special, _, _⟩ =>
    rw [entry] at collected
    exact Or.inl (Except.ok.inj collected).symm

/-- The name a path is collected under. -/
def nameOf (root path : Path) : String := asPosix (path.drop root.length)

theorem itemName_manifestItem (path : Path) (bytes : List UInt8) (mode : Nat) :
    itemName (manifestItem python path bytes mode) = some (asPosix path) := rfl

/-- The collected names come in the order of the paths. -/
theorem collected_names {paths : List Path} {files : List (List PyValue)}
    (collected : paths.mapM (collectPath python tree root) = .ok files) :
    (files.flatten.filterMap itemName).Sublist (paths.map (nameOf root)) := by
  induction paths generalizing files with
  | nil =>
    obtain rfl := Except.ok.inj collected
    exact List.nil_sublist _
  | cons path rest inductionHypothesis =>
    rw [List.mapM_cons] at collected
    obtain ⟨found, first, collected⟩ := bind_eq_ok.1 collected
    obtain ⟨others, later, result⟩ := bind_eq_ok.1 collected
    obtain rfl := Except.ok.inj result
    have behind := inductionHypothesis later
    rw [List.flatten_cons, List.filterMap_append, List.map_cons]
    rcases collectPath_eq_ok first with rfl | ⟨bytes, mode, uid, -, rfl⟩
    · exact List.Sublist.cons _ behind
    · exact behind.cons_cons _

/-- Every collected entry is one of a path. -/
theorem mem_collected {paths : List Path} {files : List (List PyValue)} {item : PyValue}
    (collected : paths.mapM (collectPath python tree root) = .ok files)
    (inside : item ∈ files.flatten) : ∃ path ∈ paths, ∃ bytes mode uid,
      stat tree path = some ⟨.file bytes, mode, uid⟩ ∧
        item = manifestItem python (path.drop root.length) bytes mode := by
  induction paths generalizing files with
  | nil =>
    obtain rfl := Except.ok.inj collected
    cases inside
  | cons path rest inductionHypothesis =>
    rw [List.mapM_cons] at collected
    obtain ⟨found, first, collected⟩ := bind_eq_ok.1 collected
    obtain ⟨others, later, result⟩ := bind_eq_ok.1 collected
    obtain rfl := Except.ok.inj result
    rw [List.flatten_cons] at inside
    rcases List.mem_append.1 inside with here | behind
    · rcases collectPath_eq_ok first with rfl | ⟨bytes, mode, uid, at_, rfl⟩
      · cases here
      · exact ⟨path, List.mem_cons_self, bytes, mode, uid, at_, List.mem_singleton.1 here⟩
    · obtain ⟨path', among, rest_⟩ := inductionHypothesis later behind
      exact ⟨path', List.mem_cons_of_mem _ among, rest_⟩

/-- The paths below a root, each once, with components that a text can spell. -/
structure Walked (root : Path) (paths : List Path) : Prop where
  below : ∀ path ∈ paths, ∃ rest, path = root ++ rest ∧ ∀ component ∈ rest, Spellable component
  once : paths.Nodup

/-- A tree bears out the manifest that is made of it, if its files may be listed and trusted. -/
theorem collect_borne {paths : List Path} {release : String} {document : PyValue}
    (walked : Walked root paths)
    (collected : collect python tree root paths release = .ok document)
    (safe : ∀ name ∈ listed document, Safe name)
    (guarded : ∀ name ∈ listed document, ∀ part, part <+: components name →
      ∃ entry, lstat tree (root ++ part) = some entry ∧ Guarded owner entry)
    (complete : ∀ name ∈ required, name ∈ listed document) :
    Borne python tree root owner document := by
  obtain ⟨-, collected⟩ := guard_eq_ok.1 collected
  obtain ⟨files, mapped, result⟩ := bind_eq_ok.1 collected
  obtain rfl := (Except.ok.inj result).symm
  refine ⟨fun item inside => ?_, ?_, complete⟩
  · obtain ⟨path, among, bytes, mode, uid, at_, rfl⟩ := mem_collected mapped inside
    obtain ⟨rest, rfl, spellable⟩ := walked.below path among
    rw [List.drop_left] at inside ⊢
    have named : itemName (manifestItem python rest bytes mode) = some (asPosix rest) :=
      itemName_manifestItem rest bytes mode
    have member : asPosix rest ∈ listed _ := List.mem_filterMap.2 ⟨_, inside, named⟩
    have parts := guarded _ member
    rw [components_asPosix spellable] at parts
    obtain ⟨entry, found, owned, -, plain⟩ := parts rest (List.prefix_refl rest)
    obtain rfl := Option.some.inj ((stat_of_lstat found plain).symm.trans at_)
    obtain rfl : uid = owner := owned
    refine ⟨asPosix rest, named, safe _ member, ?_, bytes, mode, ?_, ⟨_, rfl, ?_⟩, _, rfl, ?_⟩
    · rw [components_asPosix spellable]
      exact ⟨parts, bytes, mode, found⟩
    · rwa [components_asPosix spellable]
    · exact beq_self_eq_true _
    · exact beq_self_eq_true _
  · refine (collected_names mapped).nodup (List.Nodup.map_on ?_ walked.once)
    intro first among second among' same
    obtain ⟨rest, rfl, spellable⟩ := walked.below first among
    obtain ⟨rest', rfl, spellable'⟩ := walked.below second among'
    rw [nameOf, nameOf, List.drop_left, List.drop_left] at same
    rw [← components_asPosix spellable, same, components_asPosix spellable']

/-- `verify` accepts a tree with the manifest that is made of it, in the release it is made for. -/
theorem verify_collected {paths : List Path} {release : String} {document : PyValue}
    (walked : Walked root paths)
    (collected : collect python tree root paths release = .ok document)
    (safe : ∀ name ∈ listed document, Safe name)
    (guarded : ∀ name ∈ listed document, ∀ part, part <+: components name →
      ∃ entry, lstat tree (root ++ part) = some entry ∧ Guarded owner entry)
    (complete : ∀ name ∈ required, name ∈ listed document)
    (recorded : Recorded python tree root owner document) (formed : releaseFormed release = true)
    (count : 10 ≤ (items document).length ∧ (items document).length ≤ 64) :
    verify python tree root owner (.ok release) = .ok document := by
  have borne := collect_borne walked collected safe guarded complete
  obtain ⟨-, collected⟩ := guard_eq_ok.1 collected
  obtain ⟨files, -, result⟩ := bind_eq_ok.1 collected
  refine verify_eq_ok.2 ⟨recorded, borne, release, rfl, ?_, formed, count⟩
  exact ⟨_, files.flatten, (Except.ok.inj result).symm, rfl, rfl, beq_self_eq_true _,
    beq_self_eq_true _⟩

end Trigger6.Packaging
