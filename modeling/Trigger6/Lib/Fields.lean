/-
This file is a small library about lines of fields, `key=value`, with a word in
front and a space before each field. Keys and values are plain: they contain no
space, no equals sign and no line feed, so what looks like a part of a field in
such a line is a part of one of its fields.
-/

import Trigger6.Lib.Regex
import Trigger6.Lib.Text

namespace Fields

open Regex Text

/-- A text without the characters that divide fields. -/
def Plain (text : List Char) : Prop :=
  ∀ symbol ∈ text, symbol ≠ ' ' ∧ symbol ≠ '=' ∧ symbol ≠ '\n'

instance (text : List Char) : Decidable (Plain text) := by
  unfold Plain
  infer_instance

/-- A plain text. -/
abbrev Word := { text : List Char // Plain text }

theorem plain_decimal (value : Nat) : Plain (decimal value) := by
  intro symbol member
  have digit := isDigit_of_mem_decimal member
  refine ⟨?_, ?_, ?_⟩ <;>
  · rintro rfl
    cases digit

theorem Plain.cons {front : Char} {text : List Char} (plain : Plain text)
    (apart : front ≠ ' ' ∧ front ≠ '=' ∧ front ≠ '\n') : Plain (front :: text) :=
  List.forall_mem_cons.mpr ⟨apart, plain⟩

theorem plain_integer (value : Int) : Plain (integer value) := by
  rw [integer]
  split
  · exact (plain_decimal _).cons (by decide)
  · exact plain_decimal _

namespace Word

/-- A fixed word. -/
def named (name : String) (plain : Plain name.toList := by decide) : Word :=
  ⟨name.toList, plain⟩

def decimal (value : Nat) : Word := ⟨Text.decimal value, plain_decimal value⟩

def integer (value : Int) : Word := ⟨Text.integer value, plain_integer value⟩

/-- The numeral `%03u` prints. -/
def padded (value : Nat) : Word :=
  ⟨List.replicate (3 - (Text.decimal value).length) '0' ++ Text.decimal value, by
    intro symbol member
    rcases List.mem_append.mp member with zero | digit
    · rw [List.eq_of_mem_replicate zero]
      decide
    · exact plain_decimal value symbol digit⟩

/-- The numeral `%u` prints of a flag. -/
def flag (set : Bool) : Word := decimal set.toNat

end Word

/-! ### Fields -/

structure Field where
  key : Word
  value : Word

def Field.text (field : Field) : List Char := field.key.1 ++ '=' :: field.value.1

/-- Some fields, each behind a space. -/
def spaced (fields : List Field) : List Char :=
  fields.flatMap fun field => ' ' :: field.text

@[simp]
theorem spaced_nil : spaced [] = [] := rfl

@[simp]
theorem spaced_cons (field : Field) (fields : List Field) :
    spaced (field :: fields) = ' ' :: (field.key.1 ++ '=' :: (field.value.1 ++ spaced fields)) := by
  rw [spaced, List.flatMap_cons, Field.text, List.cons_append, List.append_assoc,
    List.cons_append]
  rfl

theorem spaced_append (fields others : List Field) :
    spaced (fields ++ others) = spaced fields ++ spaced others :=
  List.flatMap_append

theorem Plain.notMem {text : List Char} (plain : Plain text) :
    ' ' ∉ text ∧ '=' ∉ text ∧ '\n' ∉ text :=
  ⟨fun member => (plain _ member).1 rfl, fun member => (plain _ member).2.1 rfl,
    fun member => (plain _ member).2.2 rfl⟩

theorem space_not_mem_text (field : Field) : ' ' ∉ field.text := by
  intro member
  rcases List.mem_append.mp member with inKey | rest
  · exact field.key.2.notMem.1 inKey
  · rcases List.mem_cons.mp rest with equals | inValue
    · cases equals
    · exact field.value.2.notMem.1 inValue

theorem feed_not_mem_spaced (fields : List Field) : '\n' ∉ spaced fields := by
  induction fields with
  | nil => exact List.not_mem_nil
  | cons field fields inductionHypothesis =>
    rw [spaced_cons]
    simp [field.key.2.notMem.2.2, field.value.2.notMem.2.2, inductionHypothesis]

/-! ### What looks like a part of a field -/

/-- The first place of a character cuts a text in one way. -/
theorem append_cons_inj {separator : Char} {left right tail rest : List Char}
    (absentLeft : separator ∉ left) (absentRight : separator ∉ right)
    (same : left ++ separator :: tail = right ++ separator :: rest) :
    left = right ∧ tail = rest := by
  rcases List.append_eq_append_iff.mp same with ⟨between, first, second⟩ | ⟨between, first, second⟩
  · cases between with
    | nil =>
      rw [List.append_nil] at first
      exact ⟨first.symm, (List.cons.inj second).2⟩
    | cons symbol between =>
      obtain ⟨rfl, _⟩ := List.cons.inj second
      exact absurd (first ▸ by simp) absentRight
  · cases between with
    | nil =>
      rw [List.append_nil] at first
      exact ⟨first, (List.cons.inj second).2.symm⟩
    | cons symbol between =>
      obtain ⟨rfl, _⟩ := List.cons.inj second
      exact absurd (first ▸ by simp) absentLeft

/-- A marker passes over a text without its first character. -/
theorem isInfix_append_of_not_mem {front : Char} {marker skipped text : List Char}
    (absent : front ∉ skipped) (inside : front :: marker <:+: skipped ++ text) :
    front :: marker <:+: text := by
  induction skipped with
  | nil => exact inside
  | cons symbol skipped inductionHypothesis =>
    refine inductionHypothesis (List.not_mem_of_not_mem_cons absent) ?_
    rcases List.infix_cons_iff.mp inside with here | later
    · exact absurd (List.cons_prefix_cons.mp here).1 (List.ne_of_not_mem_cons absent)
    · exact later

/-- Whatever a field's text is cut at, behind an equals sign it is its value. -/
theorem Field.text_cut {field : Field} {left right : List Char}
    (cut : field.text = left ++ '=' :: right) : left = field.key.1 ∧ right = field.value.1 := by
  have once : field.text.count '=' = 1 := by
    rw [Field.text, List.count_append, List.count_cons_self,
      List.count_eq_zero.mpr field.key.2.notMem.2.1, List.count_eq_zero.mpr field.value.2.notMem.2.1]
  rw [cut, List.count_append, List.count_cons_self] at once
  have absent : '=' ∉ left := List.count_eq_zero.mp (by omega)
  exact append_cons_inj absent field.key.2.notMem.2.1 cut.symm

/-- What looks like the front of a field is the front of a field. -/
theorem exists_key_of_isInfix {key : List Char} (plain : Plain key) {first : List Char}
    (absent : ' ' ∉ first) {fields : List Field}
    (inside : ' ' :: (key ++ ['=']) <:+: first ++ spaced fields) :
    ∃ field ∈ fields, field.key.1 = key := by
  have rest := isInfix_append_of_not_mem absent inside
  induction fields generalizing first with
  | nil =>
    obtain ⟨before, behind, same⟩ := rest
    simp at same
  | cons field fields inductionHypothesis =>
    rw [spaced, List.flatMap_cons, ← spaced, List.cons_append] at rest
    rcases List.infix_cons_iff.mp rest with ⟨behind, same⟩ | later
    · refine ⟨field, List.mem_cons_self, ?_⟩
      have cut : key ++ ['='] ++ behind = field.text ++ spaced fields := (List.cons.inj same).2
      rw [List.append_assoc, Field.text, List.append_assoc] at cut
      exact (append_cons_inj plain.notMem.2.1 field.key.2.notMem.2.1 cut).1.symm
    · obtain ⟨other, member, same⟩ := inductionHypothesis (space_not_mem_text field) later
        (isInfix_append_of_not_mem (space_not_mem_text field) later)
      exact ⟨other, List.mem_cons_of_mem _ member, same⟩

/-- A text without a separator that ends where another does, ends in what is behind the
separator. -/
theorem isSuffix_of_append_eq {separator : Char} {before first word rest : List Char}
    (absent : separator ∉ word) (same : before ++ word = first ++ separator :: rest) :
    word <:+ rest := by
  rcases List.append_eq_append_iff.mp same with ⟨between, _, right⟩ | ⟨between, _, right⟩
  · exact absurd (by rw [right]; simp) absent
  · cases between with
    | nil => exact absurd (by rw [← List.nil_append word, ← right]; exact List.mem_cons_self) absent
    | cons symbol between => exact ⟨between, (List.cons.inj right).2.symm⟩

/-- As above, for a text that begins where another does. -/
theorem isPrefix_of_append_eq {separator : Char} {behind first word rest : List Char}
    (absent : separator ∉ word) (same : word ++ behind = first ++ separator :: rest) :
    word <+: first := by
  rcases List.append_eq_append_iff.mp same with ⟨between, left, _⟩ | ⟨between, left, right⟩
  · exact ⟨between, left.symm⟩
  · cases between with
    | nil => exact ⟨[], by rw [left, List.append_nil, List.append_nil]⟩
    | cons symbol between =>
      obtain ⟨rfl, _⟩ := List.cons.inj right
      exact absurd (by rw [left]; simp) absent

/-- What looks like an equals sign with a key's end and a value's front around it is one. -/
theorem exists_field_of_isInfix {key value : List Char} (plainKey : Plain key)
    (plainValue : Plain value) {first : List Char} (absent : '=' ∉ first) {fields : List Field}
    (inside : key ++ '=' :: value <:+: first ++ spaced fields) :
    ∃ field ∈ fields, key <:+ field.key.1 ∧ value <+: field.value.1 := by
  induction fields generalizing first with
  | nil =>
    rw [spaced_nil, List.append_nil] at inside
    exact absurd (inside.subset (by simp)) absent
  | cons field fields inductionHypothesis =>
    obtain ⟨before, behind, same⟩ := inside
    have text : first ++ spaced (field :: fields) =
        (first ++ ' ' :: field.key.1) ++ '=' :: (field.value.1 ++ spaced fields) := by
      rw [spaced_cons, List.append_assoc, List.cons_append]
    have free : '=' ∉ first ++ ' ' :: field.key.1 := by
      simp [absent, field.key.2.notMem.2.1]
    rw [text] at same
    by_cases earlier : '=' ∈ before
    · obtain ⟨skipped, later, rfl, fresh⟩ := List.eq_append_cons_of_mem earlier
      simp only [List.append_assoc, List.cons_append] at same
      obtain ⟨_, rest⟩ := append_cons_inj fresh free (by simpa using same)
      obtain ⟨other, member, found⟩ := inductionHypothesis field.value.2.notMem.2.1
        ⟨later, behind, by rw [← rest]; simp⟩
      exact ⟨other, List.mem_cons_of_mem _ member, found⟩
    · have fresh : '=' ∉ before ++ key := by simp [earlier, plainKey.notMem.2.1]
      obtain ⟨left, right⟩ := append_cons_inj fresh free (by simpa using same)
      refine ⟨field, List.mem_cons_self, isSuffix_of_append_eq plainKey.notMem.1 left, ?_⟩
      cases fields with
      | nil => exact ⟨behind, by rw [right, spaced_nil, List.append_nil]⟩
      | cons next fields =>
        rw [spaced_cons] at right
        exact isPrefix_of_append_eq plainValue.notMem.1 right

/-! ### Matches in lines of fields -/

/-- The matches of a pattern that avoids spaces are those in the words. -/
theorem findAll_spaced {pattern : Pattern} (avoids : pattern.Avoids ' ')
    (nonempty : pattern.run [] = []) {first : List Char} (absent : ' ' ∉ first)
    (fields : List Field) :
    findAll pattern (first ++ spaced fields) =
      findAll pattern first ++ fields.flatMap fun field => findAll pattern field.text := by
  induction fields generalizing first with
  | nil => rw [spaced_nil, List.append_nil, List.flatMap_nil, List.append_nil]
  | cons field fields inductionHypothesis =>
    rw [spaced, List.flatMap_cons, ← spaced, List.cons_append,
      findAll_separated avoids nonempty absent, inductionHypothesis (space_not_mem_text field),
      List.flatMap_cons]

/-- The matches of a pattern that avoids line feeds are those in the lines. -/
theorem findAll_unlines {pattern : Pattern} (avoids : pattern.Avoids '\n')
    (nonempty : pattern.run [] = []) {content : List (List Char)}
    (unbroken : ∀ line ∈ content, '\n' ∉ line) :
    findAll pattern (unlines content) = content.flatMap (findAll pattern) := by
  induction content with
  | nil => rfl
  | cons line content inductionHypothesis =>
    have text : unlines (line :: content) = line ++ '\n' :: unlines content := by
      rw [unlines, List.flatMap_cons, List.append_assoc]
      rfl
    rw [text, findAll_separated avoids nonempty (unbroken line List.mem_cons_self),
      inductionHypothesis fun other member => unbroken other (List.mem_cons_of_mem _ member),
      List.flatMap_cons]

end Fields
