/-
This file proves which changes of an installed file an accepted manifest shows.
A change below the root is seen by every check that looks at the changed path
and by no other, so that the verification after it reads the same manifest and
refuses because of the changed entry alone. What it does not see is a change of
the special permission bits: the manifest holds nine bits, and only these are
compared.
-/

import Trigger6.Packaging.Scope

namespace Trigger6.Packaging

open Controller FileTree Text

/-! ### Changes -/

/-- What is reached below the root without a link is what it was, but for one path. -/
def ChangedOnly (tree tree' : Tree) (root below : Path) : Prop :=
  ∀ part, above ∉ part → Plain tree root part → ¬ below <+: part →
    lstat tree' (root ++ part) = lstat tree (root ++ part)

/-- A change of a file, or of one of the directories it is in. -/
inductive Change
  | file (new : Option FileTree.Entry)
  | linked (directory : Path) (new : FileTree.Entry)
  | writable (directory : Path) (mode : Nat)

/-- A change that turns one tree into another, as seen from the file. -/
def Change.Made (tree tree' : Tree) (root below : Path) : Change → Prop
  | .file new => ChangedOnly tree tree' root below ∧ lstat tree' (root ++ below) = new ∧
      new ≠ lstat tree (root ++ below)
  | .linked directory new => directory <+: below ∧ directory ≠ below ∧
      ChangedOnly tree tree' root directory ∧ lstat tree' (root ++ directory) = some new ∧
      new.isLink = true
  | .writable directory mode => directory <+: below ∧ directory ≠ below ∧
      ChangedOnly tree tree' root directory ∧ mode &&& 0o022 ≠ 0 ∧
      ∃ old, lstat tree (root ++ directory) = some old ∧
        lstat tree' (root ++ directory) = some { old with mode }

/-- Only the set-user-id, set-group-id and sticky bits change. -/
def Change.SpecialBits (old : Option FileTree.Entry) : Change → Prop
  | .file (some new) => ∃ entry, old = some entry ∧ new.kind = entry.kind ∧
      new.owner = entry.owner ∧ new.mode &&& 0o777 = entry.mode &&& 0o777
  | _ => False

/-! ### What a change leaves -/

variable {python : Python} {tree tree' : Tree} {root : Path} {owner : Nat}

theorem Trusted.kept {below : Path} (trusted : Trusted tree root owner below)
    (same : ∀ part, part <+: below → lstat tree' (root ++ part) = lstat tree (root ++ part)) :
    Trusted tree' root owner below := by
  refine ⟨fun part begins => ?_, ?_⟩
  · rw [same part begins]
    exact trusted.parts part begins
  · rw [same below (List.prefix_refl below)]
    exact trusted.regular

/-- A file not below the changed path is what it was. -/
theorem ChangedOnly.same {below directory : Path} (only : ChangedOnly tree tree' root directory)
    (ordinary : above ∉ below) (trusted : Trusted tree root owner below) (apart : ¬ directory <+: below) :
    ∀ part, part <+: below → lstat tree' (root ++ part) = lstat tree (root ++ part) := by
  intro part begins
  exact only part (fun member => ordinary (begins.subset member))
    (fun front first => trusted.plain front (first.trans begins))
    fun inside => apart (inside.trans begins)

/-- An edit of one entry of a tree changes only its path. -/
theorem changedOnly_update {below : Path} (ordinary : above ∉ root) (plain : Plain tree [] root)
    (new : Option FileTree.Entry) :
    ChangedOnly tree (Function.update tree (root ++ below) new) root below := by
  intro part usual plainPart apart
  have whole : Plain tree [] (root ++ part) := by
    intro front begins
    rcases List.prefix_or_prefix_of_prefix begins (List.prefix_append root part) with first | second
    · exact plain front first
    · obtain ⟨rest, rfl⟩ := second
      exact plainPart rest ((List.prefix_append_right_inj root).1 begins)
  refine (whole.congr (fun member => ?_) fun front begins => ?_).2
  · rcases List.mem_append.1 member with first | second
    · exact ordinary first
    · exact usual second
  · refine Function.update_of_ne (fun same => apart ?_) _ _
    rw [same] at begins
    exact (List.prefix_append_right_inj root).1 begins

/-- Nothing is below a file. -/
theorem Trusted.leaf {first second : Path} (file : Trusted tree root owner first)
    (other : Trusted tree root owner second) (below : first <+: second) : first = second := by
  obtain ⟨rest, rfl⟩ := below
  cases rest with
  | nil => exact (List.append_nil first).symm
  | cons name rest =>
    obtain ⟨bytes, mode, found⟩ := file.regular
    have next : first ++ [name] <+: first ++ name :: rest :=
      (List.prefix_append_right_inj first).2 ⟨rest, rfl⟩
    obtain ⟨entry, inside, -⟩ := other.parts (first ++ [name]) next
    rw [← List.append_assoc] at inside
    cases directory_of_lstat inside found rfl

theorem Recorded.kept {document : PyValue} (recorded : Recorded python tree root owner document)
    (same : ∀ part, part <+: components manifest →
      lstat tree' (root ++ part) = lstat tree (root ++ part)) :
    Recorded python tree' root owner document := by
  obtain ⟨bytes, mode, text, found, rest⟩ := recorded.reads
  refine ⟨recorded.trusted.kept same, bytes, mode, text, ?_, rest⟩
  rw [same _ (List.prefix_refl _)]
  exact found

theorem Recorded.unique {first second : PyValue} (one : Recorded python tree root owner first)
    (other : Recorded python tree root owner second) : first = second :=
  Except.ok.inj ((readManifest_eq_ok.2 one).symm.trans (readManifest_eq_ok.2 other))

/-! ### Entries agree with one file -/

theorem equalsNat_unique {value : PyValue} {first second : Nat}
    (one : equalsNat value first = true) (other : equalsNat value second = true) :
    first = second := by
  match value with
  | .number (.int value) =>
    exact Int.ofNat.inj ((eq_of_beq one).symm.trans (eq_of_beq other))
  | .number (.float value) =>
    exact Nat.cast_injective ((eq_of_beq one).symm.trans (eq_of_beq other))
  | .bool value => exact (eq_of_beq one).symm.trans (eq_of_beq other)

theorem equalsText_unique {value : PyValue} {first second : String}
    (one : equalsText value (some first) = true) (other : equalsText value (some second) = true) :
    first = second := by
  match value with
  | .text value => exact (eq_of_beq one).symm.trans (eq_of_beq other)

/-- Two files that an entry agrees with differ in their special bits only. -/
theorem Verified.unique {item : PyValue} {name : String}
    (collisionFree : python.sha256.Injective) (one : Verified python tree root owner item name)
    (other : Verified python tree' root owner item name) :
    ∃ bytes mode mode', lstat tree (root ++ components name) = some ⟨.file bytes, mode, owner⟩ ∧
      lstat tree' (root ++ components name) = some ⟨.file bytes, mode', owner⟩ ∧
      mode' &&& 0o777 = mode &&& 0o777 := by
  obtain ⟨bytes, mode, found, ⟨value, read, modes⟩, digest, digestRead, digests⟩ := one.agrees
  obtain ⟨bytes', mode', found', ⟨value', read', modes'⟩, digest', digestRead', digests'⟩ :=
    other.agrees
  obtain rfl := Except.ok.inj (read.symm.trans read')
  obtain rfl := Except.ok.inj (digestRead.symm.trans digestRead')
  obtain rfl := collisionFree (equalsText_unique digests digests')
  exact ⟨bytes, mode, mode', found, found', equalsNat_unique modes' modes⟩

/-- The trust in a file does not depend on its special bits. -/
theorem guard_bits {mode mode' : Nat} (same : mode' &&& 0o777 = mode &&& 0o777) :
    mode' &&& 0o022 = mode &&& 0o022 := by
  have within : 0o022 = 0o777 &&& 0o022 := by decide
  rw [within, ← Nat.and_assoc, ← Nat.and_assoc, same]

/-- An entry that agrees with its file agrees with it after its special bits changed, and so does
every entry for another path. -/
theorem Verified.kept {item : PyValue} {name : String} {below : Path} {bytes : List UInt8}
    {mode mode' : Nat} (verified : Verified python tree root owner item name)
    (changed : Trusted tree root owner below) (only : ChangedOnly tree tree' root below)
    (found : lstat tree (root ++ below) = some ⟨.file bytes, mode, owner⟩)
    (found' : lstat tree' (root ++ below) = some ⟨.file bytes, mode', owner⟩)
    (same : mode' &&& 0o777 = mode &&& 0o777) : Verified python tree' root owner item name := by
  by_cases apart : below <+: components name
  · have here := changed.leaf verified.trusted apart
    obtain ⟨bytes', old, found'', modes, digests⟩ := verified.agrees
    rw [← here, found] at found''
    obtain ⟨rfl, rfl⟩ : bytes = bytes' ∧ mode = old := by
      cases found''
      exact ⟨rfl, rfl⟩
    refine ⟨verified.safe, ⟨fun part begins => ?_, bytes, mode', here ▸ found'⟩,
      bytes, mode', here ▸ found', same ▸ modes, digests⟩
    by_cases whole : below <+: part
    · obtain rfl := (here ▸ begins).eq_of_length_le whole.length_le
      obtain ⟨entry, inside, owned, guarded, plain⟩ := verified.trusted.parts part begins
      refine ⟨_, found', rfl, ?_, rfl⟩
      rw [found] at inside
      obtain rfl := Option.some.inj inside
      exact (guard_bits same).trans guarded
    · rw [only part (fun inside => verified.safe.within (begins.subset inside))
        (fun front first => verified.trusted.plain front (first.trans begins)) whole]
      exact verified.trusted.parts part begins
  · have unchanged := only.same verified.safe.within verified.trusted apart
    refine ⟨verified.safe, verified.trusted.kept unchanged, ?_⟩
    rw [unchanged _ (List.prefix_refl _)]
    exact verified.agrees

/-! ### Refusal -/

/-- A directory on the way to a listed file that nobody may trust. -/
theorem not_accepted_of_untrusted {release : Except PyError String} {document document' : PyValue}
    {name : String} {directory : Path} {new : FileTree.Entry}
    (accepted : verify python tree root owner release = .ok document)
    (inside : name ∈ listed document) (begins : directory <+: components name)
    (only : ChangedOnly tree tree' root directory)
    (found : lstat tree' (root ++ directory) = some new) (untrusted : ¬ Guarded owner new) :
    verify python tree' root owner release ≠ .ok document' := by
  intro again
  obtain ⟨recorded, borne, -⟩ := verify_eq_ok.1 accepted
  obtain ⟨recorded', borne', -⟩ := verify_eq_ok.1 again
  have unguarded : ∀ below, directory <+: below → ¬ Trusted tree' root owner below := by
    intro below on trusted
    obtain ⟨entry, at_, guarded⟩ := trusted.parts directory on
    obtain rfl := Option.some.inj (found.symm.trans at_)
    exact untrusted guarded
  by_cases shared : directory <+: components manifest
  · exact unguarded _ shared recorded'.trusted
  · obtain rfl := recorded'.unique (recorded.kept (only.same manifest_ordinary recorded.trusted shared))
    obtain ⟨item, -, -, verified⟩ := borne'.entry inside
    exact unguarded _ begins verified.trusted

/-- After a change of a listed file or of a directory it is in, `verify` accepts the tree just
when the change is one of special bits. -/
theorem accepted_iff_specialBits {release : Except PyError String} {document : PyValue}
    {name : String} {change : Change} (collisionFree : python.sha256.Injective)
    (accepted : verify python tree root owner release = .ok document)
    (inside : name ∈ listed document) (made : change.Made tree tree' root (components name)) :
    (∃ document', verify python tree' root owner release = .ok document') ↔
      change.SpecialBits (lstat tree (root ++ components name)) := by
  obtain ⟨recorded, borne, text, known, header⟩ := verify_eq_ok.1 accepted
  obtain ⟨item, member, named, verified⟩ := borne.entry inside
  cases change with
  | file new =>
    obtain ⟨only, found, different⟩ := made
    have apart : ¬ components name <+: components manifest := fun below =>
      verified.safe.not_manifest (verified.trusted.leaf recorded.trusted below)
    have recorded' := recorded.kept (only.same manifest_ordinary recorded.trusted apart)
    constructor
    · rintro ⟨document', again⟩
      obtain ⟨recorded'', borne', -⟩ := verify_eq_ok.1 again
      obtain rfl := recorded'.unique recorded''
      obtain ⟨name', named', verified'⟩ := borne'.verified item member
      obtain rfl := Option.some.inj (named.symm.trans named')
      obtain ⟨bytes, mode, mode', at_, at', bits⟩ := verified.unique collisionFree verified'
      rw [at_, ← found, at']
      exact ⟨_, rfl, rfl, rfl, bits⟩
    · intro special
      obtain ⟨bytes, mode, at_⟩ := verified.trusted.regular
      have after : ∃ mode', lstat tree' (root ++ components name) =
          some ⟨.file bytes, mode', owner⟩ ∧ mode' &&& 0o777 = mode &&& 0o777 := by
        cases new with
        | none => cases special
        | some new =>
          obtain ⟨entry, same, kind, uid, bits⟩ := special
          obtain rfl := Option.some.inj (at_.symm.trans same)
          obtain ⟨kind', mode', owner'⟩ := new
          obtain rfl : kind' = .file bytes := kind
          obtain rfl : owner' = owner := uid
          exact ⟨mode', found, bits⟩
      obtain ⟨mode', at', bits⟩ := after
      refine ⟨document, verify_eq_ok.2 ⟨recorded', ⟨fun item member => ?_, borne.distinct,
        borne.complete⟩, text, known, header⟩⟩
      obtain ⟨name', named', verified'⟩ := borne.verified item member
      exact ⟨name', named', verified'.kept verified.trusted only at_ at' bits⟩
  | linked directory new =>
    obtain ⟨begins, -, only, found, link⟩ := made
    refine iff_of_false (fun ⟨document', again⟩ => ?_) id
    refine not_accepted_of_untrusted accepted inside begins only found ?_ again
    rintro ⟨-, -, plain⟩
    exact absurd (link.symm.trans plain) (by decide)
  | writable directory mode =>
    obtain ⟨begins, -, only, bits, old, -, found⟩ := made
    refine iff_of_false (fun ⟨document', again⟩ => ?_) id
    exact not_accepted_of_untrusted accepted inside begins only found
      (fun guarded => bits guarded.2.1) again

/-- `verify` refuses the tree after a change of a listed file or of a directory it is in, unless
the change is one of special bits. -/
theorem tamper_refused {release : Except PyError String} {document : PyValue}
    {name : String} {change : Change} (collisionFree : python.sha256.Injective)
    (accepted : verify python tree root owner release = .ok document)
    (inside : name ∈ listed document) (made : change.Made tree tree' root (components name)) :
    (∃ error, verify python tree' root owner release = .error error) ↔
      ¬ change.SpecialBits (lstat tree (root ++ components name)) := by
  rw [← accepted_iff_specialBits collisionFree accepted inside made]
  cases verify python tree' root owner release with
  | ok document' => exact iff_of_false nofun fun refused => refused ⟨document', rfl⟩
  | error error => exact iff_of_true ⟨error, rfl⟩ nofun

/-! ### The small installation, changed -/

theorem smallPython_collisionFree : smallPython.sha256.Injective := by
  have plain : ∀ bytes : List UInt8, bytes ≠ [] → smallPython.sha256 bytes =
      String.ofList ('x' :: bytes.map fun byte => Char.ofNat byte.toNat) := by
    intro bytes filled
    cases bytes with
    | nil => exact absurd rfl filled
    | cons byte rest => rfl
  have apart : ∀ bytes : List UInt8, bytes ≠ [] →
      smallPython.sha256 [] ≠ smallPython.sha256 bytes := by
    intro bytes filled same
    have spelled : smallPython.sha256 [] = String.ofList ('e' :: _) := rfl
    rw [plain bytes filled, spelled] at same
    exact absurd (List.cons.inj (String.ofList_injective same)).1 (by decide)
  intro first second same
  by_cases empty : first = []
  · by_contra different
    exact apart second (fun none_ => different (empty.trans none_.symm)) (empty ▸ same)
  · by_cases empty' : second = []
    · exact absurd (empty' ▸ same.symm) (apart first empty)
    · rw [plain first empty, plain second empty'] at same
      have letters := (List.cons.inj (String.ofList_injective same)).2
      have code : ∀ number < 256, (Char.ofNat number).toNat = number := by decide +kernel
      refine List.map_injective_iff.2 (fun one other equal => UInt8.toNat_inj.1 ?_) letters
      rw [← code one.toNat one.toNat_lt, ← code other.toNat other.toNat_lt]
      exact congrArg Char.toNat equal

theorem setup_inside : "usr/lib/jcd543-trigger6/setup.py" ∈ smallNames :=
  List.mem_append_left _ (List.mem_append_right _ (List.mem_cons_of_mem _ List.mem_cons_self))

theorem plain_smallTree : Plain (smallTree smallNames) [] [] := by
  intro part begins
  rw [List.prefix_nil.1 begins]
  obtain ⟨recorded, -⟩ := verify_eq_ok.1 verify_smallTree
  exact recorded.trusted.plain.start

theorem lstat_setup : lstat (smallTree smallNames) (components "usr/lib/jcd543-trigger6/setup.py") =
    some ⟨.file [], 0o644, 0⟩ :=
  smallNames_laid.lstat_file setup_inside

/-- The tree after an edit of the setup program. -/
def editedTree (new : FileTree.Entry) : Tree :=
  Function.update (smallTree smallNames) ([] ++ components "usr/lib/jcd543-trigger6/setup.py") new

/-- The edit changes the setup program and nothing else. -/
theorem edited_made {new : FileTree.Entry} (different : new ≠ ⟨.file [], 0o644, 0⟩) :
    (Change.file (some new)).Made (smallTree smallNames) (editedTree new) []
      (components "usr/lib/jcd543-trigger6/setup.py") := by
  have among := List.mem_cons_of_mem manifest setup_inside
  refine ⟨changedOnly_update List.not_mem_nil plain_smallTree _, ?_, ?_⟩
  · rw [List.nil_append, editedTree, List.nil_append,
      lstat_of_directories (smallNames_laid.safe _ setup_inside).within]
    · exact Function.update_self _ _ _
    · intro part begins proper
      rw [Function.update_of_ne proper, smallNames_laid.directory among begins proper]
      exact ⟨_, rfl, rfl⟩
  · rw [List.nil_append, lstat_setup]
    exact fun same => different (Option.some.inj same)

theorem tamper_refused_small : ∃ error,
    verify smallPython (editedTree ⟨.file [0], 0o644, 0⟩) [] 0 (.ok "0.1.0-1") = .error error := by
  have inside : "usr/lib/jcd543-trigger6/setup.py" ∈ listed (smallDocument smallNames) := by
    rw [listed_smallDocument]
    exact setup_inside
  refine (tamper_refused smallPython_collisionFree verify_smallTree inside
    (edited_made (by decide))).2 ?_
  rintro ⟨entry, found, bytes, -⟩
  rw [List.nil_append, lstat_setup] at found
  obtain rfl := Option.some.inj found
  exact absurd bytes (by decide)

/-- A file that was made set-user-id is accepted. -/
theorem not_refused_setuid : ¬ ∀ (python : Python) (tree tree' : Tree) (root : Path) (owner : Nat)
    (release : Except PyError String) (document : PyValue) (name : String) (change : Change),
    python.sha256.Injective → verify python tree root owner release = .ok document →
    name ∈ listed document → change.Made tree tree' root (components name) →
    ∃ error, verify python tree' root owner release = .error error := by
  intro claim
  have inside : "usr/lib/jcd543-trigger6/setup.py" ∈ listed (smallDocument smallNames) := by
    rw [listed_smallDocument]
    exact setup_inside
  have made := edited_made (show (⟨.file [], 0o4644, 0⟩ : FileTree.Entry) ≠ _ by decide)
  obtain ⟨error, refused⟩ := claim _ _ _ _ _ _ _ _ _ smallPython_collisionFree verify_smallTree
    inside made
  obtain ⟨document', accepted⟩ := (accepted_iff_specialBits smallPython_collisionFree
    verify_smallTree inside made).2 ⟨_, lstat_setup, rfl, rfl, by decide⟩
  cases refused.symm.trans accepted

end Trigger6.Packaging
