/-
This file is a small library about JSON text: a printer that escapes everything
outside printable ASCII, a reader that accepts any JSON text, and the round trip
between them. Numbers are a parameter: a printer writes a numeral for a number
and a reader says which number a numeral stands for.

An object is its members in key order. The reader puts members where they
belong, and a key that comes again replaces the earlier one.
-/

import Mathlib.Data.String.Basic
import Trigger6.Lib.Text

namespace Json

/-! ### Values -/

/-- A JSON value over the numbers of some language. -/
inductive Value (Number : Type)
  | null
  | bool (value : Bool)
  | number (value : Number)
  | text (value : String)
  | array (items : List (Value Number))
  | object (members : List (String × Value Number))

variable {Number : Type}

/-- The value of a member of an object. -/
def lookup (key : String) (members : List (String × Value Number)) : Option (Value Number) :=
  List.lookup key members

/-- The members with one more, which replaces an earlier member of the same key. -/
def insertMember (key : String) (value : Value Number) :
    List (String × Value Number) → List (String × Value Number)
  | [] => [(key, value)]
  | (other, old) :: rest =>
    if key < other then (key, value) :: (other, old) :: rest
    else if key = other then (key, value) :: rest
    else (other, old) :: insertMember key value rest

/-- The object a list of members makes, as they come. -/
def objectOf (members : List (String × Value Number)) : List (String × Value Number) :=
  members.foldl (fun object member => insertMember member.1 member.2 object) []

/-- The keys come in order, each once. -/
def Ordered (members : List (String × Value Number)) : Prop :=
  members.Pairwise fun first second => first.1 < second.1

theorem insertMember_last {key : String} {value : Value Number}
    {members : List (String × Value Number)} (last : ∀ member ∈ members, member.1 < key) :
    insertMember key value members = members ++ [(key, value)] := by
  induction members with
  | nil => rfl
  | cons first rest inductionHypothesis =>
    have before := last first List.mem_cons_self
    rw [insertMember, if_neg (not_lt_of_gt before), if_neg (ne_of_gt before),
      inductionHypothesis fun member inside => last member (List.mem_cons_of_mem _ inside),
      List.cons_append]

theorem foldl_insertMember {front members : List (String × Value Number)}
    (ordered : Ordered (front ++ members)) :
    members.foldl (fun object member => insertMember member.1 member.2 object) front =
      front ++ members := by
  induction members generalizing front with
  | nil => rw [List.foldl_nil, List.append_nil]
  | cons first rest inductionHypothesis =>
    have last : ∀ member ∈ front, member.1 < first.1 := fun member inside =>
      (List.pairwise_append.mp ordered).2.2 member inside first List.mem_cons_self
    rw [List.foldl_cons, insertMember_last last, inductionHypothesis, List.append_assoc,
      List.singleton_append]
    rwa [List.append_assoc, List.singleton_append]

/-- Members in order are the object they make. -/
theorem objectOf_ordered {members : List (String × Value Number)} (ordered : Ordered members) :
    objectOf members = members := by
  rw [objectOf, foldl_insertMember (show Ordered ([] ++ members) from ordered), List.nil_append]

/-! ### Texts -/

/-- Four lower-case hexadecimal digits. -/
def hexFour (code : Nat) : List Char :=
  [Text.hexDigit (code / 4096), Text.hexDigit (code / 256 % 16), Text.hexDigit (code / 16 % 16),
    Text.hexDigit (code % 16)]

/-- The escapes of one letter, and the character each stands for. -/
def shortEscape : Char → Option Char
  | '"' => some '"'
  | '\\' => some '\\'
  | 'b' => some '\x08'
  | 'f' => some '\x0c'
  | 'n' => some '\n'
  | 'r' => some '\r'
  | 't' => some '\t'
  | '/' => some '/'
  | _ => none

/-- The letter of the escape a character is written with, if it has one. -/
def escapeLetter (symbol : Char) : Option Char :=
  if symbol = '"' then some '"'
  else if symbol = '\\' then some '\\'
  else if symbol = '\x08' then some 'b'
  else if symbol = '\x0c' then some 'f'
  else if symbol = '\n' then some 'n'
  else if symbol = '\r' then some 'r'
  else if symbol = '\t' then some 't'
  else none

/-- One character of a printed text. Beyond the basic plane it is written as a surrogate pair. -/
def escape (symbol : Char) : List Char :=
  match escapeLetter symbol with
  | some letter => ['\\', letter]
  | none =>
    if 0x20 ≤ symbol.toNat ∧ symbol.toNat ≤ 0x7e then [symbol]
    else if symbol.toNat < 0x10000 then '\\' :: 'u' :: hexFour symbol.toNat
    else
      '\\' :: 'u' :: hexFour (0xd800 + (symbol.toNat - 0x10000) / 0x400) ++
        '\\' :: 'u' :: hexFour (0xdc00 + (symbol.toNat - 0x10000) % 0x400)

/-- A text between quotes. -/
def quote (text : String) : List Char :=
  '"' :: text.toList.flatMap escape ++ ['"']

/-- The number that four hexadecimal digits stand for. -/
def fromHexFour (first second third fourth : Char) : Option Nat := do
  return 4096 * (← Text.hexValue first) + 256 * (← Text.hexValue second) +
    16 * (← Text.hexValue third) + (← Text.hexValue fourth)

/-- The character behind `\u`. A surrogate stands for one only as half of a pair. -/
def scanUnicode : List Char → Option (Char × List Char)
  | first :: second :: third :: fourth :: rest => do
    let code ← fromHexFour first second third fourth
    if 0xd800 ≤ code ∧ code < 0xdc00 then
      match rest with
      | '\\' :: 'u' :: first :: second :: third :: fourth :: rest => do
        let low ← fromHexFour first second third fourth
        if 0xdc00 ≤ low ∧ low < 0xe000 then
          some (Char.ofNat (0x10000 + 0x400 * (code - 0xd800) + (low - 0xdc00)), rest)
        else none
      | _ => none
    else if 0xdc00 ≤ code ∧ code < 0xe000 then none
    else some (Char.ofNat code, rest)
  | _ => none

/-- One character of a text that is being read. A control character must be escaped. -/
def scanSymbol : List Char → Option (Char × List Char)
  | '\\' :: 'u' :: rest => scanUnicode rest
  | '\\' :: letter :: rest => (shortEscape letter).map fun symbol => (symbol, rest)
  | symbol :: rest => if symbol.toNat < 0x20 then none else some (symbol, rest)
  | [] => none

/-- The rest of a text behind its opening quote. -/
def scanText : Nat → List Char → Option (List Char × List Char)
  | 0, _ => none
  | _ + 1, '"' :: rest => some ([], rest)
  | fuel + 1, text => do
    let (symbol, rest) ← scanSymbol text
    let (symbols, rest) ← scanText fuel rest
    return (symbol :: symbols, rest)

theorem fromHexFour_hexFour {code : Nat} (small : code < 65536) :
    fromHexFour (Text.hexDigit (code / 4096)) (Text.hexDigit (code / 256 % 16))
      (Text.hexDigit (code / 16 % 16)) (Text.hexDigit (code % 16)) = some code := by
  rw [fromHexFour, Text.hexValue_hexDigit (by omega), Text.hexValue_hexDigit (by omega),
    Text.hexValue_hexDigit (by omega), Text.hexValue_hexDigit (by omega)]
  exact congrArg some (by omega)

theorem shortEscape_escapeLetter {symbol letter : Char}
    (short : escapeLetter symbol = some letter) :
    shortEscape letter = some symbol ∧ letter ≠ 'u' := by
  unfold escapeLetter at short
  split_ifs at short with quote backslash backspace feed newline carriage tab
  all_goals
    obtain rfl := Option.some.inj short
    subst symbol
    exact ⟨rfl, by decide⟩

/-- A character without a short escape is neither a quote nor a backslash. -/
theorem plain_of_escapeLetter {symbol : Char} (long : escapeLetter symbol = none) :
    symbol ≠ '"' ∧ symbol ≠ '\\' := by
  refine ⟨?_, ?_⟩ <;> rintro rfl <;> exact absurd long (by decide)

theorem scanUnicode_hexFour {symbol : Char} (basic : symbol.toNat < 65536) (rest : List Char) :
    scanUnicode (hexFour symbol.toNat ++ rest) = some (symbol, rest) := by
  have valid : symbol.toNat < 0xd800 ∨ 0xdfff < symbol.toNat ∧ symbol.toNat < 0x110000 :=
    symbol.valid
  unfold hexFour
  simp only [List.cons_append, List.nil_append, scanUnicode]
  rw [fromHexFour_hexFour basic, Option.bind_eq_bind, Option.bind_some, if_neg (by omega),
    if_neg (by omega), Char.ofNat_toNat]

theorem scanUnicode_pair {symbol : Char} (beyond : ¬ symbol.toNat < 65536) (rest : List Char) :
    scanUnicode (hexFour (0xd800 + (symbol.toNat - 0x10000) / 0x400) ++
      '\\' :: 'u' :: hexFour (0xdc00 + (symbol.toNat - 0x10000) % 0x400) ++ rest) =
        some (symbol, rest) := by
  have valid : symbol.toNat < 0xd800 ∨ 0xdfff < symbol.toNat ∧ symbol.toNat < 0x110000 :=
    symbol.valid
  unfold hexFour
  simp only [List.cons_append, List.nil_append, scanUnicode]
  rw [fromHexFour_hexFour (by omega), Option.bind_eq_bind, Option.bind_some, if_pos (by omega),
    fromHexFour_hexFour (by omega), Option.bind_some, if_pos (by omega)]
  rw [show 0x10000 + 0x400 * (0xd800 + (symbol.toNat - 0x10000) / 0x400 - 0xd800) +
    (0xdc00 + (symbol.toNat - 0x10000) % 0x400 - 0xdc00) = symbol.toNat by omega,
    Char.ofNat_toNat]

/-- A printed character is read back. -/
theorem scanSymbol_escape (symbol : Char) (rest : List Char) :
    scanSymbol (escape symbol ++ rest) = some (symbol, rest) := by
  unfold escape
  cases short : escapeLetter symbol with
  | some letter =>
    obtain ⟨stands, plain⟩ := shortEscape_escapeLetter short
    show scanSymbol ('\\' :: letter :: rest) = _
    rw [scanSymbol, stands, Option.map_some]
    exact plain
  | none =>
    obtain ⟨_, plain⟩ := plain_of_escapeLetter short
    by_cases printable : 0x20 ≤ symbol.toNat ∧ symbol.toNat ≤ 0x7e
    · show scanSymbol ((if _ then _ else _) ++ _) = _
      rw [if_pos printable, List.singleton_append, scanSymbol, if_neg (by omega)]
      · exact fun _ same => absurd same plain
      · exact fun _ _ same => absurd same plain
    · show scanSymbol ((if _ then _ else _) ++ _) = _
      rw [if_neg printable]
      by_cases basic : symbol.toNat < 65536
      · rw [if_pos basic]
        exact scanUnicode_hexFour basic rest
      · rw [if_neg basic]
        exact scanUnicode_pair basic rest

/-- A printable ASCII character. -/
def Visible (symbol : Char) : Prop := 0x20 ≤ symbol.toNat ∧ symbol.toNat ≤ 0x7e

instance (symbol : Char) : Decidable (Visible symbol) := inferInstanceAs (Decidable (_ ∧ _))

theorem visible_hexFour {code : Nat} (small : code < 65536) :
    ∀ part ∈ hexFour code, Visible part := by
  have digit : ∀ code : Fin 16, Visible (Text.hexDigit code.val) := by decide
  intro part inside
  simp only [hexFour, List.mem_cons, List.not_mem_nil, or_false] at inside
  rcases inside with rfl | rfl | rfl | rfl
  · exact digit ⟨code / 4096, by omega⟩
  · exact digit ⟨code / 256 % 16, by omega⟩
  · exact digit ⟨code / 16 % 16, by omega⟩
  · exact digit ⟨code % 16, by omega⟩

theorem visible_escapeLetter {symbol letter : Char} (short : escapeLetter symbol = some letter) :
    Visible letter := by
  unfold escapeLetter at short
  split_ifs at short
  all_goals
    obtain rfl := Option.some.inj short
    decide

/-- Whatever a character is, it is written with printable ASCII characters. -/
theorem visible_escape (symbol : Char) : ∀ part ∈ escape symbol, Visible part := by
  have unicode : ∀ code < 65536, ∀ part ∈ '\\' :: 'u' :: hexFour code, Visible part :=
    fun code small => List.forall_mem_cons.mpr ⟨by decide, List.forall_mem_cons.mpr
      ⟨by decide, visible_hexFour small⟩⟩
  have valid : symbol.toNat < 0xd800 ∨ 0xdfff < symbol.toNat ∧ symbol.toNat < 0x110000 :=
    symbol.valid
  unfold escape
  cases short : escapeLetter symbol with
  | some letter =>
    exact List.forall_mem_cons.mpr ⟨by decide, List.forall_mem_singleton.mpr
      (visible_escapeLetter short)⟩
  | none =>
    dsimp only
    split_ifs with printable basic
    · exact List.forall_mem_singleton.mpr printable
    · exact unicode _ basic
    · exact List.forall_mem_append.mpr ⟨unicode _ (by omega), unicode _ (by omega)⟩

theorem visible_quote (text : String) : ∀ symbol ∈ quote text, Visible symbol := by
  refine List.forall_mem_cons.mpr ⟨by decide, List.forall_mem_append.mpr
    ⟨fun symbol inside => ?_, List.forall_mem_singleton.mpr (by decide)⟩⟩
  obtain ⟨source, _, part⟩ := List.mem_flatMap.mp inside
  exact visible_escape source symbol part

theorem ascii_quote (text : String) : ∀ symbol ∈ quote text, symbol.toNat < 128 :=
  fun symbol inside => Nat.lt_of_le_of_lt (visible_quote text symbol inside).2 (by decide)

/-! ### The length of a printed text -/

/-- How many characters a character is written with. -/
def escapedWidth (symbol : Char) : Nat :=
  match escapeLetter symbol with
  | some _ => 2
  | none =>
    if 0x20 ≤ symbol.toNat ∧ symbol.toNat ≤ 0x7e then 1
    else if symbol.toNat < 0x10000 then 6
    else 12

/-- How many characters a text is written with, its quotes apart. -/
def escapedLength (text : String) : Nat := (text.toList.map escapedWidth).sum

theorem length_escape (symbol : Char) : (escape symbol).length = escapedWidth symbol := by
  unfold escape escapedWidth
  cases escapeLetter symbol with
  | some letter => rfl
  | none =>
    dsimp only
    split_ifs <;> rfl

/-- A printable character is written with at most two. -/
theorem escapedWidth_le {symbol : Char} (visible : Visible symbol) : escapedWidth symbol ≤ 2 := by
  unfold escapedWidth
  cases escapeLetter symbol with
  | some letter => exact le_rfl
  | none =>
    dsimp only
    rw [if_pos (show 0x20 ≤ symbol.toNat ∧ symbol.toNat ≤ 0x7e from visible)]
    decide

theorem escapedLength_ofList_le {symbols : List Char} (visible : ∀ symbol ∈ symbols, Visible symbol) :
    escapedLength (String.ofList symbols) ≤ 2 * symbols.length := by
  rw [escapedLength, String.toList_ofList]
  induction symbols with
  | nil => exact le_rfl
  | cons symbol rest inductionHypothesis =>
    have first := escapedWidth_le (visible symbol List.mem_cons_self)
    have others := inductionHypothesis fun other inside =>
      visible other (List.mem_cons_of_mem _ inside)
    rw [List.map_cons, List.sum_cons, List.length_cons]
    omega

/-- Printable constants, by their characters. -/
theorem escapedLength_spelled_le {names : List String} {texts : List (List Char)} {bound : Nat}
    (spelled : names = texts.map String.ofList)
    (visible : ∀ text ∈ texts, (∀ symbol ∈ text, Visible symbol) ∧ text.length ≤ bound) :
    ∀ name ∈ names, escapedLength name ≤ 2 * bound := by
  rw [spelled, List.forall_mem_map]
  intro text inside
  obtain ⟨plain, short⟩ := visible text inside
  exact (escapedLength_ofList_le plain).trans (Nat.mul_le_mul_left 2 short)

theorem length_quote (text : String) : (quote text).length = escapedLength text + 2 := by
  show (text.toList.flatMap escape ++ ['"']).length + 1 = _
  rw [List.length_append, List.length_flatMap, List.length_singleton, escapedLength]
  simp only [length_escape]

/-- A printed character does not look like the end of its text. -/
theorem escape_head (symbol : Char) :
    ∃ first others, escape symbol = first :: others ∧ first ≠ '"' := by
  unfold escape
  cases short : escapeLetter symbol with
  | some letter => exact ⟨'\\', [letter], rfl, by decide⟩
  | none =>
    obtain ⟨plain, _⟩ := plain_of_escapeLetter short
    by_cases printable : 0x20 ≤ symbol.toNat ∧ symbol.toNat ≤ 0x7e
    · exact ⟨symbol, [], if_pos printable, plain⟩
    · by_cases basic : symbol.toNat < 65536
      · exact ⟨'\\', _, (if_neg printable).trans (if_pos basic), by decide⟩
      · exact ⟨'\\', _, (if_neg printable).trans (if_neg basic), by decide⟩

/-- A printed text is read back. -/
theorem scanText_escaped (symbols rest : List Char) {fuel : Nat}
    (enough : (symbols.flatMap escape).length < fuel) :
    scanText fuel (symbols.flatMap escape ++ '"' :: rest) = some (symbols, rest) := by
  induction symbols generalizing fuel with
  | nil =>
    obtain ⟨fuel, rfl⟩ := Nat.exists_eq_succ_of_ne_zero (Nat.ne_of_gt enough)
    rfl
  | cons symbol symbols inductionHypothesis =>
    obtain ⟨fuel, rfl⟩ := Nat.exists_eq_succ_of_ne_zero (Nat.ne_of_gt (Nat.zero_lt_of_lt enough))
    obtain ⟨first, others, shape, plain⟩ := escape_head symbol
    have step := scanSymbol_escape symbol (symbols.flatMap escape ++ '"' :: rest)
    rw [List.flatMap_cons, List.length_append] at enough
    have shorter : (symbols.flatMap escape).length < fuel := by
      have : 0 < (escape symbol).length := by rw [shape]; exact Nat.succ_pos _
      omega
    rw [List.flatMap_cons, List.append_assoc]
    rw [shape, List.cons_append] at step ⊢
    rw [scanText, step]
    · show (scanText fuel _).bind _ = _
      rw [inductionHypothesis shorter]
      rfl
    · exact fun _ same => plain (List.cons.inj same).1

/-! ### Numerals -/

/-- The text of a number: a whole part, and a fraction and an exponent with their marks. -/
structure Numeral where
  whole : List Char
  fraction : List Char
  exponent : List Char
deriving DecidableEq

def Numeral.text (numeral : Numeral) : List Char :=
  numeral.whole ++ (numeral.fraction ++ numeral.exponent)

/-- The digits at the front of a text. -/
def scanDigits (text : List Char) : List Char × List Char :=
  (text.takeWhile Char.isDigit, text.dropWhile Char.isDigit)

/-- A sign at the front of a text, if it is one of some. -/
def scanSign (signs : List Char) : List Char → List Char × List Char
  | [] => ([], [])
  | symbol :: rest => if symbol ∈ signs then ([symbol], rest) else ([], symbol :: rest)

/-- `0|[1-9][0-9]*`. -/
def scanUnsigned : List Char → Option (List Char × List Char)
  | [] => none
  | symbol :: rest =>
    if symbol = '0' then some (['0'], rest)
    else if symbol.isDigit then
      let (digits, rest) := scanDigits rest
      some (symbol :: digits, rest)
    else none

/-- `-?(?:0|[1-9][0-9]*)`. -/
def scanWhole (text : List Char) : Option (List Char × List Char) :=
  let signed := scanSign ['-'] text
  (scanUnsigned signed.2).map fun digits => (signed.1 ++ digits.1, digits.2)

/-- `(\.[0-9]+)?`. -/
def scanFraction (text : List Char) : List Char × List Char :=
  let (mark, rest) := scanSign ['.'] text
  let (digits, rest) := scanDigits rest
  if mark.isEmpty || digits.isEmpty then ([], text) else (mark ++ digits, rest)

/-- `([eE][-+]?[0-9]+)?`. -/
def scanExponent (text : List Char) : List Char × List Char :=
  let (mark, rest) := scanSign ['e', 'E'] text
  let (sign, rest) := scanSign ['-', '+'] rest
  let (digits, rest) := scanDigits rest
  if mark.isEmpty || digits.isEmpty then ([], text) else (mark ++ (sign ++ digits), rest)

/-- The longest numeral a text begins with. -/
def scanNumeral (text : List Char) : Option (Numeral × List Char) := do
  let (whole, rest) ← scanWhole text
  let (fraction, rest) := scanFraction rest
  let (exponent, rest) := scanExponent rest
  return ({ whole := whole, fraction := fraction, exponent := exponent }, rest)

/-- No numeral goes on in the text. -/
def Delimits (text : List Char) : Prop :=
  ∀ symbol, text.head? = some symbol →
    symbol.isDigit = false ∧ symbol ≠ '.' ∧ symbol ≠ 'e' ∧ symbol ≠ 'E'

theorem delimits_cons {symbol : Char} (rest : List Char)
    (plain : (symbol.isDigit || symbol == '.' || symbol == 'e' || symbol == 'E') = false) :
    Delimits (symbol :: rest) := by
  intro front first
  obtain rfl := Option.some.inj first
  simpa only [Bool.or_eq_false_iff, beq_eq_false_iff_ne, ne_eq, and_assoc] using plain

theorem scanDigits_append {text rest : List Char} (delimits : Delimits rest) :
    scanDigits (text ++ rest) = ((scanDigits text).1, (scanDigits text).2 ++ rest) := by
  induction text with
  | nil =>
    cases rest with
    | nil => rfl
    | cons symbol rest =>
      have stops := (delimits symbol rfl).1
      rw [scanDigits, List.nil_append, List.takeWhile_cons, List.dropWhile_cons, stops]
      rfl
  | cons symbol text inductionHypothesis =>
    obtain ⟨taken, dropped⟩ := Prod.mk.inj inductionHypothesis
    unfold scanDigits
    by_cases digit : symbol.isDigit = true
    · rw [List.cons_append, List.takeWhile_cons_of_pos digit, List.dropWhile_cons_of_pos digit,
        List.takeWhile_cons_of_pos digit, List.dropWhile_cons_of_pos digit, taken, dropped]
      rfl
    · rw [List.cons_append, List.takeWhile_cons_of_neg digit, List.dropWhile_cons_of_neg digit,
        List.takeWhile_cons_of_neg digit, List.dropWhile_cons_of_neg digit, List.cons_append]

theorem scanSign_append {signs text rest : List Char} (outside : ∀ symbol,
    text = [] → rest.head? = some symbol → symbol ∉ signs) :
    scanSign signs (text ++ rest) = ((scanSign signs text).1, (scanSign signs text).2 ++ rest) := by
  cases text with
  | nil =>
    cases rest with
    | nil => rfl
    | cons symbol rest =>
      show (if symbol ∈ signs then _ else _) = _
      rw [if_neg (outside symbol rfl rfl)]
      rfl
  | cons symbol text =>
    rw [List.cons_append, scanSign, scanSign]
    by_cases sign : symbol ∈ signs
    · rw [if_pos sign, if_pos sign]
    · rw [if_neg sign, if_neg sign, List.cons_append]

theorem scanUnsigned_append {text rest : List Char} (delimits : Delimits rest)
    (nonempty : text ≠ []) :
    scanUnsigned (text ++ rest) =
      (scanUnsigned text).map fun digits => (digits.1, digits.2 ++ rest) := by
  cases text with
  | nil => exact absurd rfl nonempty
  | cons symbol text =>
    rw [List.cons_append, scanUnsigned, scanUnsigned, scanDigits_append delimits]
    split_ifs <;> rfl

theorem scanWhole_append {text rest whole tail : List Char} (delimits : Delimits rest)
    (scanned : scanWhole text = some (whole, tail)) :
    scanWhole (text ++ rest) = some (whole, tail ++ rest) := by
  have sign : scanSign ['-'] (text ++ rest) =
      ((scanSign ['-'] text).1, (scanSign ['-'] text).2 ++ rest) := by
    refine scanSign_append fun symbol empty _ _ => ?_
    subst empty
    cases scanned
  have nonempty : (scanSign ['-'] text).2 ≠ [] := by
    intro empty
    unfold scanWhole at scanned
    dsimp only at scanned
    rw [empty] at scanned
    cases scanned
  obtain ⟨digits, unsigned, same⟩ := Option.map_eq_some_iff.mp scanned
  obtain ⟨rfl, rfl⟩ := Prod.mk.inj same
  unfold scanWhole
  dsimp only
  rw [sign, scanUnsigned_append delimits nonempty, unsigned]
  rfl

theorem scanFraction_append {text rest : List Char} (delimits : Delimits rest) :
    scanFraction (text ++ rest) = ((scanFraction text).1, (scanFraction text).2 ++ rest) := by
  have mark : scanSign ['.'] (text ++ rest) =
      ((scanSign ['.'] text).1, (scanSign ['.'] text).2 ++ rest) :=
    scanSign_append fun symbol _ first point =>
      (delimits symbol first).2.1 (List.mem_singleton.mp point)
  unfold scanFraction
  rw [mark]
  dsimp only
  rw [scanDigits_append delimits]
  split_ifs <;> rfl

/-- An exponent that a text ends in goes no further in a longer text. -/
theorem scanExponent_append {text rest exponent : List Char} (delimits : Delimits rest)
    (scanned : scanExponent text = (exponent, [])) :
    scanExponent (text ++ rest) = (exponent, rest) := by
  have mark : scanSign ['e', 'E'] (text ++ rest) =
      ((scanSign ['e', 'E'] text).1, (scanSign ['e', 'E'] text).2 ++ rest) := by
    refine scanSign_append fun symbol _ first exponential => ?_
    obtain ⟨_, _, small, large⟩ := delimits symbol first
    rcases List.mem_cons.mp exponential with here | there
    · exact small here
    · exact large (List.mem_singleton.mp there)
  unfold scanExponent at scanned ⊢
  rw [mark]
  dsimp only at scanned ⊢
  cases text with
  | nil =>
    obtain ⟨same, _⟩ := Prod.mk.inj scanned
    rw [← same]
    rfl
  | cons symbol text =>
    split_ifs at scanned with absent
    · exact absurd (Prod.mk.inj scanned).2 (List.cons_ne_nil _ _)
    · have sign : scanSign ['-', '+'] ((scanSign ['e', 'E'] (symbol :: text)).2 ++ rest) =
          ((scanSign ['-', '+'] (scanSign ['e', 'E'] (symbol :: text)).2).1,
            (scanSign ['-', '+'] (scanSign ['e', 'E'] (symbol :: text)).2).2 ++ rest) := by
        refine scanSign_append fun other empty _ _ => ?_
        rw [empty] at absent
        exact absent (Bool.or_true _)
      obtain ⟨same, left⟩ := Prod.mk.inj scanned
      simp only [sign, scanDigits_append delimits]
      rw [if_neg absent, same, left, List.nil_append]

/-- A text that is all one numeral is read as that numeral in front of what does not go on. -/
theorem scanNumeral_append {numeral : Numeral} {text rest : List Char} (delimits : Delimits rest)
    (scanned : scanNumeral text = some (numeral, [])) :
    scanNumeral (text ++ rest) = some (numeral, rest) := by
  unfold scanNumeral at scanned ⊢
  cases first : scanWhole text with
  | none =>
    rw [first] at scanned
    cases scanned
  | some parts =>
    obtain ⟨whole, tail⟩ := parts
    rw [first] at scanned
    obtain ⟨same, empty⟩ := Prod.mk.inj (Option.some.inj scanned)
    have exponent : scanExponent (scanFraction tail).2 =
        ((scanExponent (scanFraction tail).2).1, []) := Prod.ext rfl empty
    rw [scanWhole_append delimits first, Option.bind_eq_bind, Option.bind_some]
    dsimp only
    rw [scanFraction_append delimits, scanExponent_append delimits exponent, ← same]
    rfl

/-- The numeral of a natural number is read up to its end. -/
theorem scanUnsigned_decimal (value : Nat) {rest : List Char} (stops : ∀ symbol, rest.head? = some symbol → ¬ symbol.isDigit = true) :
    scanUnsigned (Text.decimal value ++ rest) = some (Text.decimal value, rest) := by
  have digits : ∀ symbol ∈ Text.decimal value, symbol.isDigit = true :=
    fun _ inside => Text.isDigit_of_mem_decimal inside
  by_cases zero : value = 0
  · rw [zero]
    rfl
  · obtain ⟨first, others, shape, plain⟩ := Text.decimal_head (Nat.pos_of_ne_zero zero)
    rw [shape] at digits ⊢
    obtain ⟨digit, digits⟩ := List.forall_mem_cons.mp digits
    have taken : scanDigits (others ++ rest) = (others, rest) := by
      unfold scanDigits
      rw [List.takeWhile_append_of_pos digits, List.dropWhile_append_of_pos digits]
      cases rest with
      | nil => rw [List.takeWhile_nil, List.append_nil, List.dropWhile_nil]
      | cons symbol rest =>
        have stop := stops symbol rfl
        rw [List.takeWhile_cons_of_neg stop, List.dropWhile_cons_of_neg stop, List.append_nil]
    rw [List.cons_append, scanUnsigned, if_neg plain, if_pos digit, taken]

/-! ### Printing and reading values -/

/-- How numbers are written and read; some numbers are also read from a word of their own. -/
structure Numbers (Number : Type) where
  print : Number → List Char
  read : Numeral → Option Number
  words : List (List Char × Number)

namespace Numbers

variable (numbers : Numbers Number)

mutual

/-- The text of a value, with one blank behind every comma and colon. -/
def printValue : Value Number → List Char
  | .null => ['n', 'u', 'l', 'l']
  | .bool true => ['t', 'r', 'u', 'e']
  | .bool false => ['f', 'a', 'l', 's', 'e']
  | .number value => numbers.print value
  | .text value => quote value
  | .array [] => ['[', ']']
  | .array (item :: rest) => '[' :: (printValue item ++ printItems rest)
  | .object [] => ['{', '}']
  | .object ((key, value) :: rest) =>
    '{' :: (quote key ++ (':' :: ' ' :: (printValue value ++ printMembers rest)))

/-- The items behind the first, and the end of the array. -/
def printItems : List (Value Number) → List Char
  | [] => [']']
  | item :: rest => ',' :: ' ' :: (printValue item ++ printItems rest)

/-- The members behind the first, and the end of the object. -/
def printMembers : List (String × Value Number) → List Char
  | [] => ['}']
  | (key, value) :: rest =>
    ',' :: ' ' :: (quote key ++ (':' :: ' ' :: (printValue value ++ printMembers rest)))

end

/-- The text behind white space. -/
def skip (text : List Char) : List Char :=
  text.dropWhile fun symbol => symbol = ' ' ∨ symbol = '\t' ∨ symbol = '\n' ∨ symbol = '\r'

/-- A text that begins with a word is read as that word's number. -/
def scanWord : List (List Char × Number) → List Char → Option (Number × List Char)
  | [], _ => none
  | (word, value) :: words, text =>
    match text.dropPrefix? word with
    | some rest => some (value, rest)
    | none => scanWord words text

/-- A value that is neither a text nor an array nor an object. -/
def scanScalar : List Char → Option (Value Number × List Char)
  | 'n' :: 'u' :: 'l' :: 'l' :: rest => some (.null, rest)
  | 't' :: 'r' :: 'u' :: 'e' :: rest => some (.bool true, rest)
  | 'f' :: 'a' :: 'l' :: 's' :: 'e' :: rest => some (.bool false, rest)
  | text =>
    match scanNumeral text with
    | some (numeral, rest) => (numbers.read numeral).map fun value => (.number value, rest)
    | none => (scanWord numbers.words text).map fun (value, rest) => (.number value, rest)

mutual

/-- A value at the front of a text, within a nesting depth. -/
def scanValue : Nat → List Char → Option (Value Number × List Char)
  | 0, _ => none
  | _ + 1, '"' :: rest => do
    let (symbols, rest) ← scanText (rest.length + 1) rest
    return (.text (String.ofList symbols), rest)
  | fuel + 1, '[' :: rest =>
    match skip rest with
    | ']' :: rest => some (.array [], rest)
    | rest => do
      let (items, rest) ← scanItems fuel rest
      return (.array items, rest)
  | fuel + 1, '{' :: rest =>
    match skip rest with
    | '}' :: rest => some (.object [], rest)
    | rest => do
      let (members, rest) ← scanMembers fuel rest
      return (.object (objectOf members), rest)
  | _ + 1, text => scanScalar numbers text

/-- The items of an array up to its end. -/
def scanItems : Nat → List Char → Option (List (Value Number) × List Char)
  | 0, _ => none
  | fuel + 1, text => do
    let (item, rest) ← scanValue fuel text
    match skip rest with
    | ']' :: rest => return ([item], rest)
    | ',' :: rest =>
      let (items, rest) ← scanItems fuel (skip rest)
      return (item :: items, rest)
    | _ => none

/-- The members of an object up to its end. -/
def scanMembers : Nat → List Char → Option (List (String × Value Number) × List Char)
  | 0, _ => none
  | fuel + 1, '"' :: rest => do
    let (symbols, rest) ← scanText (rest.length + 1) rest
    match skip rest with
    | ':' :: rest =>
      let (value, rest) ← scanValue fuel (skip rest)
      match skip rest with
      | '}' :: rest => return ([(String.ofList symbols, value)], rest)
      | ',' :: rest =>
        let (members, rest) ← scanMembers fuel (skip rest)
        return ((String.ofList symbols, value) :: members, rest)
      | _ => none
    | _ => none
  | _ + 1, _ => none

end

/-- The value a whole text stands for. -/
def readValue (text : List Char) : Option (Value Number) :=
  match scanValue numbers (text.length + 1) (skip text) with
  | some (value, rest) => if skip rest = [] then some value else none
  | none => none

/-! ### Printed values are read back -/

/-- A number whose printed text is a numeral that is read as the number. -/
def Reads (value : Number) : Prop :=
  ∃ numeral, scanNumeral (numbers.print value) = some (numeral, []) ∧
    numbers.read numeral = some value

mutual

/-- Every number of the value is read back, and the keys of every object come in order. -/
def Printable : Value Number → Prop
  | .number value => numbers.Reads value
  | .array items => PrintableItems items
  | .object members => Ordered members ∧ PrintableMembers members
  | _ => True

def PrintableItems : List (Value Number) → Prop
  | [] => True
  | item :: rest => Printable item ∧ PrintableItems rest

def PrintableMembers : List (String × Value Number) → Prop
  | [] => True
  | (_, value) :: rest => Printable value ∧ PrintableMembers rest

end

variable {numbers}

/-- A numeral begins with a digit or a minus sign. -/
theorem numeral_head {text tail : List Char} {numeral : Numeral}
    (scanned : scanNumeral text = some (numeral, tail)) :
    ∃ symbol rest, text = symbol :: rest ∧ (symbol = '-' ∨ symbol.isDigit = true) := by
  cases text with
  | nil => cases scanned
  | cons symbol rest =>
    refine ⟨symbol, rest, rfl, ?_⟩
    by_contra neither
    obtain ⟨unsigned, plain⟩ := not_or.mp neither
    have sign : scanSign ['-'] (symbol :: rest) = ([], symbol :: rest) :=
      if_neg fun inside => unsigned (List.mem_singleton.mp inside)
    have zero : symbol ≠ '0' := by
      rintro rfl
      exact plain rfl
    have whole : scanWhole (symbol :: rest) = none := by
      unfold scanWhole
      dsimp only
      rw [sign, scanUnsigned, if_neg zero, if_neg plain]
      rfl
    rw [scanNumeral, whole] at scanned
    cases scanned

/-- Whether white space or the end of an array or an object may begin with a character. -/
def Opens (symbol : Char) : Prop :=
  symbol ≠ ' ' ∧ symbol ≠ '\t' ∧ symbol ≠ '\n' ∧ symbol ≠ '\r' ∧ symbol ≠ ']' ∧ symbol ≠ '}'

theorem skip_cons {symbol : Char} (rest : List Char) (dark : symbol ≠ ' ' ∧ symbol ≠ '\t' ∧
    symbol ≠ '\n' ∧ symbol ≠ '\r') : skip (symbol :: rest) = symbol :: rest := by
  obtain ⟨blank, tab, feed, carriage⟩ := dark
  refine List.dropWhile_cons_of_neg ?_
  rw [decide_eq_true_eq]
  exact not_or.mpr ⟨blank, not_or.mpr ⟨tab, not_or.mpr ⟨feed, carriage⟩⟩⟩

theorem skip_blank {symbol : Char} (rest : List Char) (opens : Opens symbol) :
    skip (' ' :: symbol :: rest) = symbol :: rest :=
  skip_cons rest ⟨opens.1, opens.2.1, opens.2.2.1, opens.2.2.2.1⟩

theorem opens_numeral {symbol : Char} (head : symbol = '-' ∨ symbol.isDigit = true) :
    Opens symbol := by
  refine ⟨?_, ?_, ?_, ?_, ?_, ?_⟩ <;> rintro rfl <;> exact absurd head (by decide)

/-- A printed value begins with neither white space nor the end of an array. -/
theorem printValue_head (value : Value Number) (printable : numbers.Printable value) :
    ∃ symbol rest, numbers.printValue value = symbol :: rest ∧ Opens symbol := by
  unfold Opens
  match value with
  | .null => exact ⟨_, _, rfl, by decide⟩
  | .bool true => exact ⟨_, _, rfl, by decide⟩
  | .bool false => exact ⟨_, _, rfl, by decide⟩
  | .text _ => exact ⟨_, _, rfl, by decide⟩
  | .array [] => exact ⟨_, _, rfl, by decide⟩
  | .array (_ :: _) => exact ⟨_, _, rfl, by decide⟩
  | .object [] => exact ⟨_, _, rfl, by decide⟩
  | .object (_ :: _) => exact ⟨_, _, rfl, by decide⟩
  | .number value =>
    obtain ⟨numeral, scanned, _⟩ := printable
    obtain ⟨symbol, rest, text, head⟩ := numeral_head scanned
    exact ⟨symbol, rest, text, opens_numeral head⟩

/-- A printed text is read back. -/
theorem scanText_quote (text : String) (rest : List Char) :
    scanText ((text.toList.flatMap escape ++ ['"'] ++ rest).length + 1)
      (text.toList.flatMap escape ++ ['"'] ++ rest) = some (text.toList, rest) := by
  rw [List.append_assoc, List.singleton_append]
  refine scanText_escaped text.toList rest ?_
  rw [List.length_append]
  omega

theorem quote_append (text : String) (rest : List Char) :
    quote text ++ rest = '"' :: (text.toList.flatMap escape ++ ['"'] ++ rest) := rfl

theorem scanScalar_number {value : Number} (reads : numbers.Reads value) {rest : List Char}
    (delimits : Delimits rest) :
    scanScalar numbers (numbers.print value ++ rest) = some (.number value, rest) := by
  obtain ⟨numeral, scanned, read⟩ := reads
  obtain ⟨symbol, tail, text, head⟩ := numeral_head scanned
  have longer := scanNumeral_append delimits scanned
  rw [text, List.cons_append] at longer ⊢
  rw [scanScalar, longer]
  · show (numbers.read numeral).map _ = _
    rw [read]
    rfl
  all_goals
    intro others same
    rw [(List.cons.inj same).1] at head
    exact absurd head (by decide)

/-- A number is read where a value is. -/
theorem scanValue_number {value : Number} (reads : numbers.Reads value) (fuel : Nat)
    {rest : List Char} (delimits : Delimits rest) :
    scanValue numbers (fuel + 1) (numbers.print value ++ rest) = some (.number value, rest) := by
  have scalar := scanScalar_number reads delimits
  obtain ⟨numeral, scanned, _⟩ := reads
  obtain ⟨symbol, tail, text, head⟩ := numeral_head scanned
  rw [text, List.cons_append] at scalar ⊢
  rw [scanValue, scalar]
  all_goals
    intro others same
    rw [(List.cons.inj same).1] at head
    exact absurd head (by decide)

/-- What a value followed by the rest of its array or object leaves does not go on with it. -/
theorem delimits_printItems (items : List (Value Number)) (rest : List Char) :
    Delimits (numbers.printItems items ++ rest) := by
  cases items with
  | nil => exact delimits_cons _ rfl
  | cons item items => exact delimits_cons _ rfl

theorem delimits_printMembers (members : List (String × Value Number)) (rest : List Char) :
    Delimits (numbers.printMembers members ++ rest) := by
  cases members with
  | nil => exact delimits_cons _ rfl
  | cons member members => exact delimits_cons _ rfl

mutual

/-- A printed value is read back in front of what does not go on with its numeral. -/
theorem scanValue_printValue (value : Value Number) (printable : numbers.Printable value)
    {fuel : Nat} (enough : (numbers.printValue value).length ≤ fuel) {rest : List Char}
    (delimits : Delimits rest) :
    scanValue numbers fuel (numbers.printValue value ++ rest) = some (value, rest) := by
  obtain ⟨symbol, others, begins, _⟩ := printValue_head value printable
  rw [begins] at enough
  obtain ⟨fuel, rfl⟩ := Nat.exists_eq_succ_of_ne_zero
    (Nat.ne_of_gt (Nat.lt_of_lt_of_le (Nat.succ_pos _) enough))
  rw [← begins] at enough
  match value with
  | .null => rfl
  | .bool true => rfl
  | .bool false => rfl
  | .number value => exact scanValue_number printable fuel delimits
  | .text text =>
    show (scanText ((text.toList.flatMap escape ++ ['"'] ++ rest).length + 1)
      (text.toList.flatMap escape ++ ['"'] ++ rest)).bind _ = _
    rw [scanText_quote, Option.bind_some]
    show some (Value.text (String.ofList text.toList), rest) = _
    rw [String.ofList_toList]
  | .array [] => rfl
  | .array (item :: items) =>
    obtain ⟨front, later, shape, opens⟩ := printValue_head item printable.1
    have read := scanItems_printItems items printable.2
      (fun shorter stops => scanValue_printValue item printable.1 shorter stops)
      (Nat.le_of_succ_le_succ enough) rest
    show scanValue numbers (fuel + 1) ('[' :: (numbers.printValue item ++
      numbers.printItems items ++ rest)) = _
    rw [List.append_assoc]
    rw [shape, List.cons_append] at read ⊢
    rw [scanValue, skip_cons _ ⟨opens.1, opens.2.1, opens.2.2.1, opens.2.2.2.1⟩]
    split
    · next others same => exact absurd (List.cons.inj same).1 opens.2.2.2.2.1
    · rw [read]
      rfl
  | .object [] => rfl
  | .object ((key, value) :: members) =>
    have shorter : (numbers.printValue value ++ numbers.printMembers members).length ≤ fuel := by
      have length : (numbers.printValue (.object ((key, value) :: members))).length =
        (quote key ++ (':' :: ' ' :: (numbers.printValue value ++
          numbers.printMembers members))).length + 1 := rfl
      rw [length, List.length_append, List.length_cons, List.length_cons] at enough
      omega
    have read := scanMembers_printMembers members printable.2.2 key printable.2.1
      (fun within stops => scanValue_printValue value printable.2.1 within stops) shorter rest
    show scanValue numbers (fuel + 1) ('{' :: (quote key ++ (':' :: ' ' ::
      (numbers.printValue value ++ numbers.printMembers members)) ++ rest)) = _
    rw [List.append_assoc, List.cons_append, List.cons_append, List.append_assoc]
    rw [quote_append] at read ⊢
    rw [scanValue, skip_cons _ (by decide)]
    split
    · next others same => exact absurd (List.cons.inj same).1 (by decide)
    · rw [read]
      show some (Value.object (objectOf ((key, value) :: members)), rest) = _
      rw [objectOf_ordered printable.1]

theorem scanItems_printItems (items : List (Value Number)) (printable : numbers.PrintableItems items)
    {first : Value Number}
    (reads : ∀ {fuel rest}, (numbers.printValue first).length ≤ fuel → Delimits rest →
      scanValue numbers fuel (numbers.printValue first ++ rest) = some (first, rest))
    {fuel : Nat} (enough : (numbers.printValue first ++ numbers.printItems items).length ≤ fuel)
    (rest : List Char) :
    scanItems numbers fuel (numbers.printValue first ++ (numbers.printItems items ++ rest)) =
      some (first :: items, rest) := by
  rw [List.length_append] at enough
  have positive : 0 < (numbers.printItems items).length := by
    cases items <;> exact Nat.succ_pos _
  obtain ⟨fuel, rfl⟩ := Nat.exists_eq_succ_of_ne_zero (n := fuel) (by omega)
  rw [scanItems, reads (by omega) (delimits_printItems items rest), Option.bind_eq_bind,
    Option.bind_some]
  match items with
  | [] => rfl
  | item :: items =>
    obtain ⟨front, later, shape, opens⟩ := printValue_head item printable.1
    have shorter : (numbers.printValue item ++ numbers.printItems items).length ≤ fuel := by
      have length : (numbers.printItems (item :: items)).length =
        (numbers.printValue item ++ numbers.printItems items).length + 2 := rfl
      omega
    have read := scanItems_printItems items printable.2
      (fun within stops => scanValue_printValue item printable.1 within stops) shorter rest
    show (scanItems numbers fuel (skip (' ' :: (numbers.printValue item ++
      numbers.printItems items ++ rest)))).bind _ = _
    rw [List.append_assoc]
    rw [shape, List.cons_append] at read ⊢
    rw [skip_blank _ opens, read]
    rfl

theorem scanMembers_printMembers (members : List (String × Value Number))
    (printable : numbers.PrintableMembers members) (key : String) {value : Value Number}
    (printed : numbers.Printable value)
    (reads : ∀ {fuel rest}, (numbers.printValue value).length ≤ fuel → Delimits rest →
      scanValue numbers fuel (numbers.printValue value ++ rest) = some (value, rest))
    {fuel : Nat}
    (enough : (numbers.printValue value ++ numbers.printMembers members).length ≤ fuel)
    (rest : List Char) :
    scanMembers numbers fuel (quote key ++ (':' :: ' ' :: (numbers.printValue value ++
      (numbers.printMembers members ++ rest)))) = some ((key, value) :: members, rest) := by
  rw [List.length_append] at enough
  have positive : 0 < (numbers.printMembers members).length := by
    cases members <;> exact Nat.succ_pos _
  obtain ⟨fuel, rfl⟩ := Nat.exists_eq_succ_of_ne_zero (n := fuel) (by omega)
  obtain ⟨front, later, shape, opens⟩ := printValue_head value printed
  have within : (numbers.printValue value).length ≤ fuel := by omega
  have stops : Delimits (numbers.printMembers members ++ rest) := delimits_printMembers members rest
  have read := reads within stops
  rw [quote_append, scanMembers, scanText_quote, Option.bind_eq_bind, Option.bind_some]
  dsimp only
  rw [String.ofList_toList]
  show (scanValue numbers fuel (skip (' ' :: (numbers.printValue value ++ _)))).bind _ = _
  have apart : skip (' ' :: (numbers.printValue value ++ (numbers.printMembers members ++ rest))) =
      numbers.printValue value ++ (numbers.printMembers members ++ rest) := by
    rw [shape]
    exact skip_blank _ opens
  rw [apart, read, Option.bind_some]
  match members with
  | [] => rfl
  | (other, item) :: members =>
    have shorter : (numbers.printValue item ++ numbers.printMembers members).length ≤ fuel := by
      have length : (numbers.printMembers ((other, item) :: members)).length =
        (quote other ++ (':' :: ' ' :: (numbers.printValue item ++
          numbers.printMembers members))).length + 2 := rfl
      rw [List.length_append, List.length_cons, List.length_cons] at length
      omega
    have following := scanMembers_printMembers members printable.2 other printable.1
      (fun within stops => scanValue_printValue item printable.1 within stops) shorter rest
    show (scanMembers numbers fuel (skip (' ' :: (quote other ++ (':' :: ' ' ::
      (numbers.printValue item ++ numbers.printMembers members)) ++ rest)))).bind _ = _
    rw [show skip (' ' :: (quote other ++ (':' :: ' ' :: (numbers.printValue item ++
      numbers.printMembers members)) ++ rest)) = quote other ++ (':' :: ' ' ::
        (numbers.printValue item ++ (numbers.printMembers members ++ rest))) by
      rw [List.append_assoc, List.cons_append, List.cons_append, List.append_assoc]
      exact skip_blank _ (by unfold Opens; decide), following]
    rfl

end

/-- A printed value is read back. -/
theorem readValue_printValue {value : Value Number} (printable : numbers.Printable value) :
    readValue numbers (numbers.printValue value) = some value := by
  obtain ⟨symbol, rest, shape, opens⟩ := printValue_head value printable
  have stops : Delimits [] := fun _ none => nomatch none
  have read := scanValue_printValue value printable (Nat.le_succ _) stops
  have dark : skip (numbers.printValue value) = numbers.printValue value := by
    rw [shape]
    exact skip_cons rest ⟨opens.1, opens.2.1, opens.2.2.1, opens.2.2.2.1⟩
  rw [List.append_nil] at read
  rw [readValue, dark, read]
  rfl

/-- Every number is written in ASCII. -/
def Ascii (numbers : Numbers Number) : Prop :=
  ∀ number, ∀ symbol ∈ numbers.print number, symbol.toNat < 128

mutual

theorem ascii_printValue (ascii : numbers.Ascii) (value : Value Number) :
    ∀ symbol ∈ numbers.printValue value, symbol.toNat < 128 := by
  match value with
  | .null => unfold printValue; decide
  | .bool true => unfold printValue; decide
  | .bool false => unfold printValue; decide
  | .number value => exact ascii value
  | .text text => exact ascii_quote text
  | .array [] => unfold printValue; decide
  | .array (item :: items) =>
    exact List.forall_mem_cons.mpr ⟨by decide, List.forall_mem_append.mpr
      ⟨ascii_printValue ascii item, ascii_printItems ascii items⟩⟩
  | .object [] => unfold printValue; decide
  | .object ((key, value) :: members) =>
    refine List.forall_mem_cons.mpr ⟨by decide, List.forall_mem_append.mpr ⟨ascii_quote key, ?_⟩⟩
    exact List.forall_mem_cons.mpr ⟨by decide, List.forall_mem_cons.mpr ⟨by decide,
      List.forall_mem_append.mpr ⟨ascii_printValue ascii value, ascii_printMembers ascii members⟩⟩⟩

theorem ascii_printItems (ascii : numbers.Ascii) (items : List (Value Number)) :
    ∀ symbol ∈ numbers.printItems items, symbol.toNat < 128 := by
  match items with
  | [] => unfold printItems; decide
  | item :: items =>
    exact List.forall_mem_cons.mpr ⟨by decide, List.forall_mem_cons.mpr ⟨by decide,
      List.forall_mem_append.mpr ⟨ascii_printValue ascii item, ascii_printItems ascii items⟩⟩⟩

theorem ascii_printMembers (ascii : numbers.Ascii) (members : List (String × Value Number)) :
    ∀ symbol ∈ numbers.printMembers members, symbol.toNat < 128 := by
  match members with
  | [] => unfold printMembers; decide
  | (key, value) :: members =>
    refine List.forall_mem_cons.mpr ⟨by decide, List.forall_mem_cons.mpr ⟨by decide, ?_⟩⟩
    refine List.forall_mem_append.mpr ⟨ascii_quote key, ?_⟩
    exact List.forall_mem_cons.mpr ⟨by decide, List.forall_mem_cons.mpr ⟨by decide,
      List.forall_mem_append.mpr ⟨ascii_printValue ascii value, ascii_printMembers ascii members⟩⟩⟩

end

end Numbers

end Json
