/-
This file proves what an accepted manifest says about the files it lists. The
checks of `verify` are first brought together in one condition on the document
and the tree. Every listed file is then at the place that its name spells below
the root, without a link on the way, so that two entries name the same file
just when their names spell the same components, and a name leaves the owned
directories just when it spells one of these directories itself.
-/

import Trigger6.Lib.Text
import Trigger6.Packaging.Setup

namespace Trigger6.Packaging

open Controller FileTree Text

/-! ### Names -/

theorem componentsFrom_slash (read front rest : List Char) :
    componentsFrom read (front ++ '/' :: rest) =
      componentsFrom read front ++ componentsFrom [] rest := by
  induction front generalizing read with
  | nil => rfl
  | cons symbol front inductionHypothesis =>
    by_cases slash : symbol = '/'
    · subst slash
      show keptComponent read ++ componentsFrom [] (front ++ '/' :: rest) =
        keptComponent read ++ componentsFrom [] front ++ componentsFrom [] rest
      rw [inductionHypothesis, List.append_assoc]
    · have later : ∀ text, componentsFrom read (symbol :: text) =
          componentsFrom (read ++ [symbol]) text := by
        intro text
        rw [componentsFrom]
        exact fun same => slash same
      rw [List.cons_append, later, later, inductionHypothesis]

theorem components_ofList (text : List Char) :
    components (String.ofList text) = componentsFrom [] text := by
  rw [components, String.toList_ofList]

/-- The owned directories end in a slash. -/
theorem allowedPrefixes_slash : ∀ front ∈ allowedPrefixes,
    ∃ directory, front.toList = directory ++ ['/'] := by
  -- the kernel reads characters far faster than it decodes a string
  have spelled : allowedPrefixes = [_, _, _, _].map String.ofList := rfl
  rw [spelled, List.forall_mem_map]
  intro text inside
  rw [String.toList_ofList]
  refine ⟨text.dropLast, ?_⟩
  revert text
  decide

/-- A name with an owned directory in front spells what is below that directory. -/
theorem components_owned {front name : String} (inside : front ∈ allowedPrefixes)
    (begins : startsWith front name = true) :
    components front <+: components name := by
  obtain ⟨directory, spelled⟩ := allowedPrefixes_slash front inside
  obtain ⟨rest, same⟩ := List.isPrefixOf_iff_prefix.1 begins
  rw [components, components, ← same, spelled, List.append_assoc, List.singleton_append,
    componentsFrom_slash, componentsFrom_slash]
  exact List.prefix_append_right_inj _ |>.2 List.nil_prefix

/-! ### Trusted files -/

variable {python : Python} {tree : Tree} {root : Path} {owner : Nat}

/-- What `trusted` asks of a file and its directories. -/
def Guarded (owner : Nat) (entry : FileTree.Entry) : Prop :=
  entry.owner = owner ∧ entry.mode &&& 0o022 = 0 ∧ entry.isLink = false

/-- A file below the root that `trusted` accepts. -/
structure Trusted (tree : Tree) (root : Path) (owner : Nat) (below : Path) : Prop where
  parts : ∀ part, part <+: below → ∃ entry, lstat tree (root ++ part) = some entry ∧ Guarded owner entry
  regular : ∃ bytes mode, lstat tree (root ++ below) = some ⟨.file bytes, mode, owner⟩

theorem Trusted.plain {below : Path} (trusted : Trusted tree root owner below) :
    Plain tree root below :=
  fun part begins =>
    have ⟨entry, found, _, _, plain⟩ := trusted.parts part begins
    ⟨entry, found, plain⟩

theorem forM_eq_ok {Item : Type} {check : Item → Except PyError Unit} {items : List Item} :
    items.forM check = .ok () ↔ ∀ item ∈ items, check item = .ok () := by
  induction items with
  | nil => exact iff_of_true rfl fun _ impossible => nomatch impossible
  | cons item rest inductionHypothesis =>
    show (check item >>= fun _ => rest.forM check) = .ok () ↔ _
    rw [bind_eq_ok, List.forall_mem_cons]
    exact ⟨fun ⟨_, first, others⟩ => ⟨first, inductionHypothesis.1 others⟩,
      fun ⟨first, others⟩ => ⟨(), first, inductionHypothesis.2 others⟩⟩

theorem trustedPart_eq_ok {part : Path} : trustedPart tree owner part = .ok () ↔
    ∃ entry, lstat tree part = some entry ∧ Guarded owner entry := by
  rw [trustedPart]
  cases lstat tree part with
  | none => exact iff_of_false nofun fun ⟨_, impossible, _⟩ => nomatch impossible
  | some info =>
    dsimp only
    by_cases bad : info.owner ≠ owner ∨ info.mode &&& 0o022 ≠ 0 ∨ info.isLink = true
    · rw [if_pos bad]
      refine iff_of_false nofun fun ⟨entry, same, owned, guarded, plain⟩ => ?_
      obtain rfl := Option.some.inj same
      rcases bad with other | writable | link
      · exact other owned
      · exact writable guarded
      · exact absurd (link.symm.trans plain) (by decide)
    · rw [if_neg bad]
      simp only [not_or, ne_eq, not_not, Bool.not_eq_true] at bad
      exact iff_of_true rfl ⟨info, rfl, bad⟩

theorem mem_pathAndParents {below part : Path} : part ∈ pathAndParents (root ++ below) root ↔
    ∃ front, front <+: below ∧ part = root ++ front := by
  rw [pathAndParents, List.length_append, Nat.add_sub_cancel_left]
  constructor
  · intro inside
    obtain ⟨up, range, rfl⟩ := List.mem_map.1 inside
    refine ⟨below.take (below.length - up), List.take_prefix _ _, ?_⟩
    have short : up ≤ below.length := Nat.le_of_lt_succ (List.mem_range.1 range)
    rw [List.take_append, List.take_of_length_le (by omega)]
    congr 2
    omega
  · rintro ⟨front, begins, rfl⟩
    have short := begins.length_le
    refine List.mem_map.2 ⟨below.length - front.length, List.mem_range.2 (by omega), ?_⟩
    rw [List.take_append, List.take_of_length_le (by omega)]
    congr 1
    rw [List.prefix_iff_eq_take.1 begins, List.length_take]
    congr 1
    omega

theorem trusted_eq_ok {below : Path} :
    trusted tree (root ++ below) root owner = .ok () ↔ Trusted tree root owner below := by
  rw [trusted, if_neg (not_not_intro (List.prefix_append root below)), bind_eq_ok]
  have checks : (pathAndParents (root ++ below) root).forM (trustedPart tree owner) = .ok () ↔
      ∀ part, part <+: below →
        ∃ entry, lstat tree (root ++ part) = some entry ∧ Guarded owner entry := by
    rw [forM_eq_ok]
    constructor
    · intro all part begins
      exact trustedPart_eq_ok.1 (all _ (mem_pathAndParents.2 ⟨part, begins, rfl⟩))
    · intro all part inside
      obtain ⟨front, begins, rfl⟩ := mem_pathAndParents.1 inside
      exact trustedPart_eq_ok.2 (all front begins)
  constructor
  · rintro ⟨_, walked, regular⟩
    have parts := checks.1 walked
    refine ⟨parts, ?_⟩
    obtain ⟨⟨kind, mode, uid⟩, found, owned, guarded, plain⟩ := parts below (List.prefix_refl below)
    have isRegular_ : isFile tree (root ++ below) = true := by
      by_contra other
      rw [if_pos (Bool.eq_false_iff.2 other)] at regular
      cases regular
    rw [isFile, stat_of_lstat found plain] at isRegular_
    obtain rfl : uid = owner := owned
    cases kind with
    | file bytes => exact ⟨bytes, mode, found⟩
    | directory | link _ _ | special => cases isRegular_
  · intro trusted
    refine ⟨(), checks.2 trusted.parts, ?_⟩
    obtain ⟨bytes, mode, found⟩ := trusted.regular
    have isRegular_ : isFile tree (root ++ below) = true := by
      rw [isFile, stat_of_lstat found rfl]
      rfl
    rw [isRegular_]
    rfl

theorem permissions_file {path : Path} {bytes : List UInt8} {mode : Nat}
    (found : lstat tree path = some ⟨.file bytes, mode, owner⟩) :
    permissions tree path = .ok (mode &&& 0o777) := by
  rw [permissions, stat_of_lstat found rfl]
  rfl

theorem readBytes_file {path : Path} {bytes : List UInt8} {mode : Nat}
    (found : lstat tree path = some ⟨.file bytes, mode, owner⟩) :
    readBytes tree path = .ok bytes := by
  rw [readBytes, stat_of_lstat found rfl]
  rfl

/-! ### Accepted entries -/

/-- The name of an entry. -/
def itemName : PyValue → Option String
  | .object members =>
    match Json.lookup "path" members with
    | some (.text name) => some name
    | _ => none
  | _ => none

/-- The entries of a document. -/
def items : PyValue → List PyValue
  | .object members =>
    match Json.lookup "files" members with
    | some (.array items) => items
    | _ => []
  | _ => []

/-- The names that a document lists. -/
def listed (document : PyValue) : List String := (items document).filterMap itemName

/-- What `safe_relative` asks of a name. -/
structure Safe (name : String) : Prop where
  within : above ∉ components name
  allowed : name ∈ allowedFiles ∨ ∃ front ∈ allowedPrefixes, startsWith front name = true
  formed : name.toList ≠ [] ∧ startsWith "/" name = false ∧ plainName name = true

theorem safeRelative_eq_ok {value : PyValue} {name : String} :
    safeRelative value = .ok name ↔ value = .text name ∧ Safe name := by
  cases value with
  | text text =>
    rw [safeRelative]
    by_cases bad : text.toList = [] ∨ startsWith "/" text = true ∨ above ∈ components text ∨
        plainName text = false
    · rw [if_pos bad]
      refine iff_of_false nofun fun ⟨same, safe⟩ => ?_
      obtain rfl := Json.Value.text.inj same
      obtain ⟨filled, relative, plain⟩ := safe.formed
      rcases bad with empty | absolute | up | odd
      · exact filled empty
      · exact absurd (absolute.symm.trans relative) (by decide)
      · exact safe.within up
      · exact absurd (odd.symm.trans plain) (by decide)
    · rw [if_neg bad]
      simp only [not_or, Bool.not_eq_true, Bool.not_eq_false] at bad
      obtain ⟨filled, relative, within, plain⟩ := bad
      by_cases scope : allowedFiles.contains text = true ∨
          allowedPrefixes.any (fun front => startsWith front text) = true
      · rw [if_neg (not_not_intro scope)]
        have allowed : text ∈ allowedFiles ∨ ∃ front ∈ allowedPrefixes, startsWith front text = true :=
          scope.imp List.contains_iff_mem.1 List.any_eq_true.1
        constructor
        · intro same
          obtain rfl := Except.ok.inj same
          exact ⟨rfl, within, allowed, filled, relative, plain⟩
        · rintro ⟨same, -⟩
          obtain rfl := Json.Value.text.inj same
          rfl
      · rw [if_pos scope]
        refine iff_of_false nofun fun ⟨same, safe⟩ => ?_
        obtain rfl := Json.Value.text.inj same
        exact scope (safe.allowed.imp List.contains_iff_mem.2 List.any_eq_true.2)
  | _ => exact iff_of_false nofun fun ⟨impossible, _⟩ => nomatch impossible

/-- An entry that agrees with its file. -/
structure Verified (python : Python) (tree : Tree) (root : Path) (owner : Nat) (item : PyValue)
    (name : String) : Prop where
  safe : Safe name
  trusted : Trusted tree root owner (components name)
  agrees : ∃ bytes mode, lstat tree (root ++ components name) = some ⟨.file bytes, mode, owner⟩ ∧
    (∃ value, memberOf item "mode" = .ok value ∧ equalsNat value (mode &&& 0o777) = true) ∧
    ∃ value, memberOf item "sha256" = .ok value ∧ equalsText value (some (python.sha256 bytes)) = true

theorem memberOf_path {item : PyValue} {name : String} :
    memberOf item "path" = .ok (.text name) ↔ itemName item = some name := by
  cases item with
  | object members =>
    rw [memberOf, itemName]
    cases Json.lookup "path" members with
    | none => exact iff_of_false (fun same => by cases same) fun same => by cases same
    | some value =>
      cases value with
      | text text =>
        exact ⟨fun same => congrArg some (Json.Value.text.inj (Except.ok.inj same)),
          fun same => congrArg (Except.ok ∘ Json.Value.text) (Option.some.inj same)⟩
      | _ => exact iff_of_false (fun same => by cases same) fun same => by cases same
  | _ => exact iff_of_false (fun same => by cases same) fun same => by cases same

theorem verifyItem_eq_ok {seen seen' : List String} {item : PyValue} :
    verifyItem python tree root owner seen item = .ok seen' ↔
      ∃ name, itemName item = some name ∧ Verified python tree root owner item name ∧
        name ∉ seen ∧ seen' = name :: seen := by
  constructor
  · intro accepted
    obtain ⟨value, path, accepted⟩ := bind_eq_ok.1 accepted
    obtain ⟨name, safe, accepted⟩ := bind_eq_ok.1 accepted
    obtain ⟨same, isSafe⟩ := safeRelative_eq_ok.1 safe
    rw [same] at path
    obtain ⟨fresh, accepted⟩ := guard_eq_ok.1 accepted
    obtain ⟨_, isTrusted, accepted⟩ := bind_eq_ok.1 accepted
    have trusted := trusted_eq_ok.1 isTrusted
    obtain ⟨bytes, mode, found⟩ := trusted.regular
    obtain ⟨bits, read, accepted⟩ := bind_eq_ok.1 accepted
    obtain ⟨modeValue, modeRead, accepted⟩ := bind_eq_ok.1 accepted
    obtain ⟨sameMode, accepted⟩ := guard_eq_ok.1 accepted
    obtain ⟨content, contentRead, accepted⟩ := bind_eq_ok.1 accepted
    obtain ⟨digest, digestRead, accepted⟩ := bind_eq_ok.1 accepted
    obtain ⟨sameDigest, finished⟩ := guard_eq_ok.1 accepted
    rw [permissions_file found] at read
    rw [readBytes_file found] at contentRead
    obtain rfl := Except.ok.inj read
    obtain rfl := Except.ok.inj contentRead
    refine ⟨name, memberOf_path.1 path, ⟨isSafe, trusted, bytes, mode, found,
      ⟨modeValue, modeRead, ?_⟩, digest, digestRead, ?_⟩, fresh, (Except.ok.inj finished).symm⟩
    · exact Bool.not_eq_false _ |>.mp sameMode
    · exact Bool.not_eq_false _ |>.mp sameDigest
  · rintro ⟨name, named, verified, fresh, rfl⟩
    obtain ⟨bytes, mode, found, ⟨modeValue, modeRead, sameMode⟩, digest, digestRead, sameDigest⟩ :=
      verified.agrees
    refine bind_eq_ok.2 ⟨_, memberOf_path.2 named, ?_⟩
    refine bind_eq_ok.2 ⟨_, safeRelative_eq_ok.2 ⟨rfl, verified.safe⟩, ?_⟩
    refine guard_eq_ok.2 ⟨fresh, ?_⟩
    refine bind_eq_ok.2 ⟨_, trusted_eq_ok.2 verified.trusted, ?_⟩
    refine bind_eq_ok.2 ⟨_, permissions_file found, ?_⟩
    refine bind_eq_ok.2 ⟨_, modeRead, ?_⟩
    refine guard_eq_ok.2 ⟨Bool.not_eq_false _ |>.mpr sameMode, ?_⟩
    refine bind_eq_ok.2 ⟨_, readBytes_file found, ?_⟩
    refine bind_eq_ok.2 ⟨_, digestRead, ?_⟩
    exact guard_eq_ok.2 ⟨Bool.not_eq_false _ |>.mpr sameDigest, rfl⟩

/-- The loop of `verify`: every entry agrees with its file, and no name comes twice. -/
theorem verifyItems_eq_ok {entries : List PyValue} {seen seen' : List String} :
    entries.foldlM (verifyItem python tree root owner) seen = .ok seen' ↔
      (∀ item ∈ entries, ∃ name, itemName item = some name ∧
        Verified python tree root owner item name) ∧
      (entries.filterMap itemName).Nodup ∧
      (∀ name ∈ entries.filterMap itemName, name ∉ seen) ∧
      seen' = (entries.filterMap itemName).reverse ++ seen := by
  induction entries generalizing seen with
  | nil =>
    constructor
    · intro accepted
      exact ⟨(fun _ impossible => nomatch impossible), List.nodup_nil,
        (fun _ impossible => nomatch impossible), (Except.ok.inj accepted).symm⟩
    · rintro ⟨-, -, -, rfl⟩
      rfl
  | cons item rest inductionHypothesis =>
    rw [List.foldlM_cons, bind_eq_ok, List.forall_mem_cons]
    constructor
    · rintro ⟨middle, first, accepted⟩
      obtain ⟨name, named, verified, fresh, rfl⟩ := verifyItem_eq_ok.1 first
      obtain ⟨others, distinct, unseen, rfl⟩ := inductionHypothesis.1 accepted
      rw [List.filterMap_cons_some named]
      refine ⟨⟨⟨name, named, verified⟩, others⟩, List.nodup_cons.2 ⟨?_, distinct⟩, ?_, ?_⟩
      · exact fun again => unseen name again List.mem_cons_self
      · rw [List.forall_mem_cons]
        exact ⟨fresh, fun other inside known => unseen other inside (List.mem_cons_of_mem _ known)⟩
      · rw [List.reverse_cons, List.append_assoc, List.singleton_append]
    · rintro ⟨⟨⟨name, named, verified⟩, others⟩, distinct, unseen, rfl⟩
      rw [List.filterMap_cons_some named] at distinct unseen
      obtain ⟨once, distinct⟩ := List.nodup_cons.1 distinct
      obtain ⟨fresh, unseen⟩ := List.forall_mem_cons.1 unseen
      refine ⟨name :: seen, verifyItem_eq_ok.2 ⟨name, named, verified, fresh, rfl⟩,
        inductionHypothesis.2 ⟨others, distinct, ?_, ?_⟩⟩
      · intro other inside known
        rcases List.mem_cons.1 known with rfl | before
        · exact once inside
        · exact unseen other inside before
      · rw [List.filterMap_cons_some named, List.reverse_cons, List.append_assoc,
          List.singleton_append]

/-! ### Accepted documents -/

/-- What `verify` asks of the document alone. -/
structure Header (release : String) (document : PyValue) : Prop where
  shape : ∃ members entries, document = .object members ∧
    Json.lookup "files" members = some (.array entries) ∧
    equalsOne ((Json.lookup "schema" members).getD .null) = true ∧
    equalsText ((Json.lookup "package" members).getD .null) (some package) = true ∧
    equalsText ((Json.lookup "version" members).getD .null) (some release) = true
  formed : releaseFormed release = true
  count : 10 ≤ (items document).length ∧ (items document).length ≤ 64

/-- A document that a tree bears out. -/
structure Borne (python : Python) (tree : Tree) (root : Path) (owner : Nat) (document : PyValue) :
    Prop where
  verified : ∀ item ∈ items document, ∃ name, itemName item = some name ∧
    Verified python tree root owner item name
  distinct : (listed document).Nodup
  complete : ∀ name ∈ required, name ∈ listed document

theorem verifyDocument_eq_ok {release : String} {document document' : PyValue} :
    verifyDocument python tree root owner release document = .ok document' ↔
      document' = document ∧ Header release document ∧ Borne python tree root owner document := by
  have shapeless : (∀ members entries, document = .object members →
      Json.lookup "files" members ≠ some (.array entries)) → ¬ (document' = document ∧
        Header release document ∧ Borne python tree root owner document) := by
    rintro none_ ⟨-, header, -⟩
    obtain ⟨members, entries, same, files, -⟩ := header.shape
    exact none_ members entries same files
  cases document with
  | object members =>
    cases files : Json.lookup "files" members with
    | none =>
      refine iff_of_false (fun accepted => ?_) (shapeless fun _ _ same files' => ?_)
      · rw [verifyDocument, files] at accepted
        cases accepted
      · rw [← Json.Value.object.inj same, files] at files'
        cases files'
    | some value =>
      cases value with
      | array entries =>
        have itemsOf : items (.object members) = entries := by
          rw [items, files]
        have namesOf : listed (.object members) = entries.filterMap itemName := by
          rw [listed, itemsOf]
        have unfolded : verifyDocument python tree root owner release (.object members) = (do
            if equalsOne ((Json.lookup "schema" members).getD .null) = false ∨
                equalsText ((Json.lookup "package" members).getD .null) (some package) = false ∨
                releaseFormed release = false ∨
                equalsText ((Json.lookup "version" members).getD .null) (some release) = false ∨
                ¬ (10 ≤ entries.length ∧ entries.length ≤ 64) then
              throw (.refusal "invalid installation manifest")
            else do
              let seen ← entries.foldlM (verifyItem python tree root owner) []
              if required.all (fun name => seen.contains name) = false then
                throw (.refusal "incomplete installation manifest")
              else return .object members) := by
          rw [verifyDocument, files]
        have complete : required.all (fun name =>
            ((entries.filterMap itemName).reverse ++ []).contains name) = true ↔
            ∀ name ∈ required, name ∈ entries.filterMap itemName := by
          rw [List.all_eq_true, List.append_nil]
          refine forall₂_congr fun name _ => ?_
          rw [List.contains_iff_mem, List.mem_reverse]
        rw [unfolded, guard_eq_ok, bind_eq_ok]
        constructor
        · rintro ⟨header, seen, loop, finished⟩
          simp only [not_or, Bool.not_eq_false, not_not] at header
          obtain ⟨schema, package_, formed, version, count⟩ := header
          obtain ⟨verified, distinct, -, rfl⟩ := verifyItems_eq_ok.1 loop
          obtain ⟨all, result⟩ := guard_eq_ok.1 finished
          refine ⟨(Except.ok.inj result).symm,
            ⟨⟨members, entries, rfl, files, schema, package_, version⟩, formed, itemsOf ▸ count⟩,
            itemsOf ▸ verified, namesOf ▸ distinct, ?_⟩
          exact namesOf ▸ complete.1 (Bool.not_eq_false _ |>.mp all)
        · rintro ⟨rfl, header, borne⟩
          obtain ⟨members', entries', same, files', schema, package_, version⟩ := header.shape
          obtain rfl := Json.Value.object.inj same
          refine ⟨?_, _, verifyItems_eq_ok.2 ⟨itemsOf ▸ borne.verified, namesOf ▸ borne.distinct,
            (fun _ _ impossible => absurd impossible List.not_mem_nil), rfl⟩, guard_eq_ok.2 ⟨?_, rfl⟩⟩
          · simp only [not_or, Bool.not_eq_false, not_not]
            exact ⟨schema, package_, header.formed, version, itemsOf ▸ header.count⟩
          · exact Bool.not_eq_false _ |>.mpr (complete.2 (namesOf ▸ borne.complete))
      | _ =>
        refine iff_of_false (fun accepted => ?_) (shapeless fun _ _ same files' => ?_)
        · rw [verifyDocument, files] at accepted
          cases accepted
        · rw [← Json.Value.object.inj same, files] at files'
          cases files'
  | _ =>
    refine iff_of_false (fun accepted => ?_) (shapeless fun _ _ same => ?_)
    · cases accepted
    · cases same

/-- The text of the manifest at its place in a tree. -/
structure Recorded (python : Python) (tree : Tree) (root : Path) (owner : Nat)
    (document : PyValue) : Prop where
  trusted : Trusted tree root owner (components manifest)
  reads : ∃ bytes mode text, lstat tree (root ++ components manifest) = some ⟨.file bytes, mode, owner⟩ ∧
    bytes.length ≤ 65536 ∧ python.decode bytes = some text ∧
    python.floats.numbers.readValue text = some document

theorem readManifest_eq_ok {document : PyValue} :
    readManifest python tree root owner = .ok document ↔ Recorded python tree root owner document := by
  rw [readManifest, manifestPath, bind_eq_ok]
  constructor
  · rintro ⟨_, isTrusted, rest⟩
    have trusted := trusted_eq_ok.1 isTrusted
    obtain ⟨bytes, mode, found⟩ := trusted.regular
    rw [readBytes_file found] at rest
    obtain ⟨short, decoded⟩ := guard_eq_ok.1 rest
    refine ⟨trusted, bytes, mode, ?_⟩
    cases text : python.decode bytes with
    | none =>
      rw [text] at decoded
      cases decoded
    | some symbols =>
      rw [text] at decoded
      cases value : python.floats.numbers.readValue symbols with
      | none =>
        dsimp only at decoded
        rw [value] at decoded
        cases decoded
      | some document' =>
        dsimp only at decoded
        rw [value] at decoded
        obtain rfl := Except.ok.inj decoded
        exact ⟨symbols, found, Nat.le_of_not_lt short, rfl, value⟩
  · rintro ⟨trusted, bytes, mode, text, found, short, decoded, value⟩
    refine ⟨(), trusted_eq_ok.2 trusted, ?_⟩
    rw [readBytes_file found]
    refine guard_eq_ok.2 ⟨Nat.not_lt_of_le short, ?_⟩
    rw [decoded]
    dsimp only
    rw [value]
    rfl

/-- `verify` accepts the document of the manifest, if the tree bears it out. -/
theorem verify_eq_ok {release : Except PyError String} {document : PyValue} :
    verify python tree root owner release = .ok document ↔
      Recorded python tree root owner document ∧ Borne python tree root owner document ∧
        ∃ text, release = .ok text ∧ Header text document := by
  rw [verify, bind_eq_ok]
  constructor
  · rintro ⟨read, recorded, rest⟩
    obtain ⟨text, known, accepted⟩ := bind_eq_ok.1 rest
    obtain ⟨rfl, header, borne⟩ := verifyDocument_eq_ok.1 accepted
    exact ⟨readManifest_eq_ok.1 recorded, borne, text, known, header⟩
  · rintro ⟨recorded, borne, text, known, header⟩
    exact ⟨document, readManifest_eq_ok.2 recorded,
      bind_eq_ok.2 ⟨text, known, verifyDocument_eq_ok.2 ⟨rfl, header, borne⟩⟩⟩

/-! ### Scope -/

theorem Borne.entry {document : PyValue} (borne : Borne python tree root owner document)
    {name : String} (inside : name ∈ listed document) :
    ∃ item ∈ items document, itemName item = some name ∧
      Verified python tree root owner item name := by
  obtain ⟨item, member, named⟩ := List.mem_filterMap.1 inside
  obtain ⟨name', named', verified⟩ := borne.verified item member
  obtain rfl := Option.some.inj (named.symm.trans named')
  exact ⟨item, member, named, verified⟩

/-- A place below the root that belongs to the package: one of its single files, or something
below one of its directories. -/
def Owned (below : Path) : Prop :=
  below ∈ allowedFiles.map components ∨
    ∃ front ∈ allowedPrefixes, ∃ rest, rest ≠ [] ∧ below = components front ++ rest

/-- What a manifest should say about the files it names. -/
structure InScope (tree : Tree) (root : Path) (names : List String) : Prop where
  distinct : names.Pairwise fun first second =>
    resolve tree (root ++ components first) ≠ resolve tree (root ++ components second)
  owned : ∀ name ∈ names, ∃ base below, resolve tree root = some base ∧
    resolve tree (root ++ components name) = some (base ++ below) ∧ Owned below
  plain : ∀ name ∈ names, Plain tree root (components name)
  complete : ∀ name ∈ required, name ∈ names

/-- A safe name spells something owned, unless it spells an owned directory. -/
theorem Safe.owned {name : String} (safe : Safe name) :
    Owned (components name) ↔ ∀ front ∈ allowedPrefixes, components name ≠ components front := by
  constructor
  · have fronts : allowedPrefixes = [_, _, _, _].map String.ofList := rfl
    intro owned front inside same
    rw [same] at owned
    rcases owned with single | ⟨other, among, rest, filled, spelled⟩
    · have files : allowedFiles = [_, _, _, _, _].map String.ofList := rfl
      have apart : ∀ front ∈ allowedPrefixes, ∀ file ∈ allowedFiles,
          components file ≠ components front := by
        rw [fronts, files]
        simp only [List.forall_mem_map, components_ofList]
        decide
      obtain ⟨file, listed_, equal⟩ := List.mem_map.1 single
      exact apart front inside file listed_ equal
    · have apart : ∀ other ∈ allowedPrefixes, ∀ front ∈ allowedPrefixes,
          components other <+: components front → components other = components front := by
        rw [fronts]
        simp only [List.forall_mem_map, components_ofList]
        decide
      have equal := apart other among front inside (spelled ▸ List.prefix_append _ _)
      rw [equal] at spelled
      exact filled (List.self_eq_append_right.1 spelled)
  · intro differs
    rcases safe.allowed with single | ⟨front, inside, begins⟩
    · exact Or.inl (List.mem_map_of_mem single)
    · obtain ⟨rest, spelled⟩ := components_owned inside begins
      refine Or.inr ⟨front, inside, rest, fun empty => differs front inside ?_, spelled.symm⟩
      rw [← spelled, empty, List.append_nil]

theorem manifest_ordinary : above ∉ components manifest := by
  have spelled : manifest = String.ofList _ := rfl
  rw [spelled, components_ofList]
  decide

/-- The manifest does not list itself. -/
theorem Safe.not_manifest {name : String} (safe : Safe name) :
    components name ≠ components manifest := by
  have spelled : manifest = String.ofList _ := rfl
  intro same
  rcases safe.allowed with single | ⟨front, inside, begins⟩
  · have files : allowedFiles = [_, _, _, _, _].map String.ofList := rfl
    have apart : ∀ file ∈ allowedFiles, components file ≠ components manifest := by
      rw [files, spelled]
      simp only [List.forall_mem_map, components_ofList]
      decide
    exact apart name single same
  · have fronts : allowedPrefixes = [_, _, _, _].map String.ofList := rfl
    have apart : ∀ front ∈ allowedPrefixes, ¬ components front <+: components manifest := by
      rw [fronts, spelled]
      simp only [List.forall_mem_map, components_ofList]
      decide
    exact apart front inside (same ▸ components_owned inside begins)

/-- The files of an accepted manifest are at the places that their names spell. -/
theorem Verified.resolve_eq {item : PyValue} {name : String}
    (verified : Verified python tree root owner item name) {base : Path}
    (begun : resolve tree root = some base) :
    resolve tree (root ++ components name) = some (base ++ components name) := by
  obtain ⟨⟨place, links⟩, led, rfl⟩ := Option.map_eq_some_iff.1 begun
  rw [resolve, (verified.trusted.plain.follow verified.safe.within led).1]
  rfl

/-- An accepted manifest is in scope if and only if its names spell different places, and none of
them spells an owned directory. -/
theorem inScope_iff_spelled_apart {release : Except PyError String} {document : PyValue}
    (accepted : verify python tree root owner release = .ok document) :
    InScope tree root (listed document) ↔
      (listed document).Pairwise (fun first second => components first ≠ components second) ∧
        ∀ name ∈ listed document, ∀ front ∈ allowedPrefixes, components name ≠ components front := by
  obtain ⟨recorded, borne, -⟩ := verify_eq_ok.1 accepted
  obtain ⟨entry, found, isPlain⟩ := recorded.trusted.plain.start
  obtain ⟨base, links, led, -⟩ := resolve_of_lstat found isPlain
  have begun : resolve tree root = some base := by
    rw [resolve, led]
    rfl
  have place : ∀ name ∈ listed document,
      Safe name ∧ resolve tree (root ++ components name) = some (base ++ components name) := by
    intro name inside
    obtain ⟨item, -, -, verified⟩ := borne.entry inside
    exact ⟨verified.safe, verified.resolve_eq begun⟩
  constructor
  · intro scope
    refine ⟨scope.distinct.imp_of_mem fun first second differ same => ?_, fun name inside => ?_⟩
    · rw [same] at differ
      exact differ rfl
    · obtain ⟨base', below, begun', at_, owned⟩ := scope.owned name inside
      obtain ⟨safe, spelled⟩ := place name inside
      obtain rfl := Option.some.inj (begun.symm.trans begun')
      obtain rfl := List.append_cancel_left (Option.some.inj (at_.symm.trans spelled))
      exact safe.owned.1 owned
  · rintro ⟨apart, differs⟩
    refine ⟨apart.imp_of_mem fun first second differ same => ?_, fun name inside => ?_,
      fun name inside => ?_, borne.complete⟩
    · rw [(place _ first).2, (place _ second).2] at same
      exact differ (List.append_cancel_left (Option.some.inj same))
    · obtain ⟨safe, spelled⟩ := place name inside
      exact ⟨base, components name, begun, spelled, safe.owned.2 (differs name inside)⟩
    · obtain ⟨item, -, -, verified⟩ := borne.entry inside
      exact verified.trusted.plain

/-! ### A small installation -/

/-- Text in ASCII, and the digest of the empty file; other digests only differ. -/
def smallPython : Python where
  floats := wholeSeconds
  decode bytes := if bytes.all (· < 128) then some (bytes.map fun byte => Char.ofNat byte.toNat) else none
  sha256
    | [] => "e3b0c44298fc1c149afbf4c8996fb92427ae41e4649b934ca495991b7852b855"
    | bytes => String.ofList ('x' :: bytes.map fun byte => Char.ofNat byte.toNat)

/-- The manifest of files that are all empty. -/
def smallDocument (names : List String) : PyValue :=
  .object [("files", .array (names.map fun name => .object [("mode", .number (.int 0o644)),
      ("path", .text name), ("sha256", .text (smallPython.sha256 []))])),
    ("package", .text package), ("schema", .number (.int 1)), ("version", .text "0.1.0-1")]

def smallBytes (names : List String) : List UInt8 :=
  (wholeSeconds.numbers.printValue (smallDocument names)).map fun symbol =>
    UInt8.ofNat symbol.toNat

/-- The tree of these files, with the manifest. -/
def smallTree (names : List String) : Tree := fun path =>
  if path = components manifest then some ⟨.file (smallBytes names), 0o644, 0⟩
  else if path ∈ names.map components then some ⟨.file [], 0o644, 0⟩
  else if (manifest :: names).any (fun name => path.isPrefixOf (components name)) then
    some ⟨.directory, 0o755, 0⟩
  else none

theorem printable_smallDocument (names : List String) :
    wholeSeconds.numbers.Printable (smallDocument names) := by
  have mode : wholeSeconds.numbers.Reads (.int 0o644) := ⟨⟨['4', '2', '0'], [], []⟩, rfl, rfl⟩
  have itemKeys : ["mode", "path", "sha256"].Pairwise (· < ·) := by decide
  have keys : ["files", "package", "schema", "version"].Pairwise (· < ·) := by decide
  have entries : wholeSeconds.numbers.PrintableItems (names.map fun name =>
      .object [("mode", .number (.int 0o644)), ("path", .text name),
        ("sha256", .text (smallPython.sha256 []))]) := by
    induction names with
    | nil => trivial
    | cons name rest inductionHypothesis =>
      exact ⟨⟨List.pairwise_map.1 itemKeys, mode, trivial, trivial, trivial⟩, inductionHypothesis⟩
  exact ⟨List.pairwise_map.1 keys, entries, trivial, wholeSeconds.reads_one, trivial, trivial⟩

theorem decode_smallBytes (names : List String) : smallPython.decode (smallBytes names) =
    some (wholeSeconds.numbers.printValue (smallDocument names)) := by
  have ascii := Json.Numbers.ascii_printValue wholeSeconds.numbers_ascii (smallDocument names)
  have byte : ∀ symbol ∈ wholeSeconds.numbers.printValue (smallDocument names),
      (UInt8.ofNat symbol.toNat).toNat = symbol.toNat := by
    intro symbol inside
    have small := ascii symbol inside
    rw [UInt8.toNat_ofNat']
    omega
  have all : (smallBytes names).all (· < 128) = true := by
    rw [smallBytes, List.all_map, List.all_eq_true]
    intro symbol inside
    refine decide_eq_true (UInt8.lt_iff_toNat_lt.2 ?_)
    rw [byte symbol inside]
    exact ascii symbol inside
  show (if (smallBytes names).all (· < 128) = true then _ else none) = _
  rw [if_pos all, smallBytes, List.map_map]
  refine congrArg some ?_
  conv_rhs => rw [← List.map_id (wholeSeconds.numbers.printValue (smallDocument names))]
  refine List.map_congr_left fun symbol inside => ?_
  rw [Function.comp_apply, byte symbol inside, Char.ofNat_toNat, id]

/-- The entry of an empty file. -/
def smallItem (name : String) : PyValue :=
  .object [("mode", .number (.int 0o644)), ("path", .text name),
    ("sha256", .text (smallPython.sha256 []))]

theorem items_smallDocument (names : List String) :
    items (smallDocument names) = names.map smallItem := rfl

theorem listed_smallDocument (names : List String) : listed (smallDocument names) = names := by
  rw [listed, items_smallDocument, List.filterMap_map]
  exact List.filterMap_some

/-- The characters of a safe name are printable, so that none is written with more than two. -/
theorem Safe.escapedLength_le {name : String} (safe : Safe name) :
    Json.escapedLength name ≤ 2 * name.toList.length := by
  have plain := safe.formed.2.2
  rw [plainName, Bool.and_eq_true, List.all_eq_true] at plain
  have marks : ∀ symbol ∈ ['_', '.', '/', '+', '-'], Json.Visible symbol := by decide
  have visible : ∀ symbol ∈ name.toList, Json.Visible symbol := by
    intro symbol inside
    have which := plain.2 symbol inside
    simp only [Bool.or_eq_true, Bool.and_eq_true, decide_eq_true_eq, List.contains_iff_mem] at which
    rcases which with ((upper | lower) | digit) | mark
    · exact ⟨le_trans (by decide) upper.1, le_trans upper.2 (by decide)⟩
    · exact ⟨le_trans (by decide) lower.1, le_trans lower.2 (by decide)⟩
    · have bounds := Char.isDigit_iff_toNat.1 digit
      exact ⟨le_trans (by decide) bounds.1, le_trans bounds.2 (by decide)⟩
    · exact marks symbol mark
  have written := Json.escapedLength_ofList_le visible
  rwa [String.ofList_toList] at written

theorem length_smallItem_le (name : String) :
    (wholeSeconds.numbers.printValue (smallItem name)).length ≤ Json.escapedLength name + 110 := by
  have mode : (Json.quote "mode").length +
      (wholeSeconds.numbers.printValue (.number (.int 0o644))).length ≤ 9 := by decide
  have path : (Json.quote "path").length ≤ 6 := by decide
  have digest : (Json.quote "sha256").length +
      (wholeSeconds.numbers.printValue (.text (smallPython.sha256 []))).length ≤ 74 := by
    decide
  have ends : (wholeSeconds.numbers.printMembers []).length = 1 := rfl
  rw [smallItem, length_object_cons, length_printMembers_cons, length_printMembers_cons,
    length_printValue_text]
  omega

theorem length_printItems_le {names : List String}
    (brief : ∀ name ∈ names, Json.escapedLength name ≤ 600) :
    (wholeSeconds.numbers.printItems (names.map smallItem)).length ≤ 720 * names.length + 1 := by
  induction names with
  | nil => exact Nat.le_refl 1
  | cons name rest inductionHypothesis =>
    obtain ⟨first, others⟩ := List.forall_mem_cons.1 brief
    have item := length_smallItem_le name
    have items := inductionHypothesis others
    rw [List.map_cons, Json.Numbers.printItems, List.length_cons, List.length_cons,
      List.length_append, List.length_cons]
    omega

theorem length_smallBytes_le {names : List String} (few : names.length ≤ 64)
    (brief : ∀ name ∈ names, Json.escapedLength name ≤ 600) :
    (smallBytes names).length ≤ 65536 := by
  have entries : (wholeSeconds.numbers.printValue (.array (names.map smallItem))).length ≤
      720 * names.length + 2 := by
    cases names with
    | nil => exact Nat.le_refl 2
    | cons name rest =>
      have items := length_printItems_le brief
      rw [List.map_cons, Json.Numbers.printItems, List.length_cons, List.length_cons] at items
      rw [List.map_cons, Json.Numbers.printValue, List.length_cons]
      omega
  have files : (Json.quote "files").length ≤ 7 := by decide
  have others : (wholeSeconds.numbers.printMembers [("package", .text package),
      ("schema", .number (.int 1)), ("version", .text "0.1.0-1")]).length ≤ 100 := by
    decide
  rw [smallBytes, List.length_map]
  show (wholeSeconds.numbers.printValue (.object (("files", .array (names.map smallItem)) ::
    [("package", .text package), ("schema", .number (.int 1)),
      ("version", .text "0.1.0-1")]))).length ≤ 65536
  rw [length_object_cons]
  omega

/-- Names that a small installation can have: they are safe, and none of them is below another or
below the manifest. -/
structure Laid (names : List String) : Prop where
  safe : ∀ name ∈ names, Safe name
  brief : ∀ name ∈ names, name.toList.length ≤ 300
  distinct : names.Nodup
  complete : ∀ name ∈ required, name ∈ names
  count : 10 ≤ names.length ∧ names.length ≤ 64
  apart : ∀ first ∈ manifest :: names, ∀ second ∈ manifest :: names,
    components first <+: components second → components first = components second

section Laid

variable {names : List String} (laid : Laid names)

include laid

theorem Laid.written {name : String} (inside : name ∈ names) : Json.escapedLength name ≤ 600 :=
  (laid.safe name inside).escapedLength_le.trans (Nat.mul_le_mul_left 2 (laid.brief name inside))

/-- What is on the way to a file is a directory. -/
theorem Laid.directory {name : String} (inside : name ∈ manifest :: names) {part : Path}
    (begins : part <+: components name) (proper : part ≠ components name) :
    smallTree names part = some ⟨.directory, 0o755, 0⟩ := by
  have spelled : ∀ other ∈ manifest :: names, part ≠ components other := by
    intro other among same
    exact proper (same.trans (laid.apart other among name inside (same ▸ begins)))
  have single : part ∉ names.map components := by
    intro member
    obtain ⟨other, among, same⟩ := List.mem_map.1 member
    exact spelled other (List.mem_cons_of_mem _ among) same.symm
  have above_ : ((manifest :: names).any fun name => part.isPrefixOf (components name)) = true :=
    List.any_eq_true.2 ⟨name, inside, List.isPrefixOf_iff_prefix.2 begins⟩
  rw [smallTree, if_neg (spelled manifest List.mem_cons_self), if_neg single, if_pos above_]

theorem Laid.lstat_eq {name : String} (inside : name ∈ manifest :: names)
    (ordinary : above ∉ components name) :
    lstat (smallTree names) (components name) = smallTree names (components name) :=
  lstat_of_directories ordinary fun _ begins proper =>
    ⟨_, laid.directory inside begins proper, rfl⟩

theorem Laid.lstat_manifest : lstat (smallTree names) (components manifest) =
    some ⟨.file (smallBytes names), 0o644, 0⟩ := by
  rw [laid.lstat_eq List.mem_cons_self manifest_ordinary, smallTree, if_pos rfl]

theorem Laid.lstat_file {name : String} (inside : name ∈ names) :
    lstat (smallTree names) (components name) = some ⟨.file [], 0o644, 0⟩ := by
  have safe := laid.safe name inside
  rw [laid.lstat_eq (List.mem_cons_of_mem _ inside) safe.within, smallTree,
    if_neg safe.not_manifest, if_pos (List.mem_map_of_mem inside)]

/-- A file of the installation is trusted, with the directories it is in. -/
theorem Laid.trusted {name : String} (inside : name ∈ manifest :: names)
    (ordinary : above ∉ components name) {bytes : List UInt8}
    (found : lstat (smallTree names) (components name) = some ⟨.file bytes, 0o644, 0⟩) :
    Trusted (smallTree names) [] 0 (components name) := by
  have closed : 0o644 &&& 0o022 = 0 ∧ 0o755 &&& 0o022 = 0 := by decide
  refine ⟨fun part begins => ?_, bytes, 0o644, found⟩
  rw [List.nil_append]
  by_cases whole : part = components name
  · rw [whole, found]
    exact ⟨_, rfl, rfl, closed.1, rfl⟩
  · have at_ : lstat (smallTree names) part = smallTree names part := by
      refine lstat_of_directories (fun member => ordinary (begins.subset member)) ?_
      intro front first proper
      refine ⟨_, laid.directory inside (first.trans begins) fun same => ?_, rfl⟩
      exact proper (first.eq_of_length_le (same ▸ begins.length_le))
    rw [at_, laid.directory inside begins whole]
    exact ⟨_, rfl, rfl, closed.2, rfl⟩

/-- A small installation is accepted. -/
theorem Laid.verify_smallTree : verify smallPython (smallTree names) [] 0 (.ok "0.1.0-1") =
    .ok (smallDocument names) := by
  have short : (smallBytes names).length ≤ 65536 :=
    length_smallBytes_le laid.count.2 fun _ => laid.written
  refine verify_eq_ok.2 ⟨⟨laid.trusted List.mem_cons_self manifest_ordinary laid.lstat_manifest,
    smallBytes names, 0o644, _, laid.lstat_manifest, short, decode_smallBytes names,
    Json.Numbers.readValue_printValue (printable_smallDocument names)⟩,
    ⟨fun item member => ?_, ?_, ?_⟩, "0.1.0-1", rfl, ?_⟩
  · rw [items_smallDocument] at member
    obtain ⟨name, inside, rfl⟩ := List.mem_map.1 member
    have safe := laid.safe name inside
    have found := laid.lstat_file inside
    exact ⟨name, rfl, safe, laid.trusted (List.mem_cons_of_mem _ inside) safe.within found,
      [], 0o644, found, ⟨_, rfl, rfl⟩, _, rfl, beq_self_eq_true _⟩
  · rw [listed_smallDocument]
    exact laid.distinct
  · rw [listed_smallDocument]
    exact laid.complete
  · refine ⟨⟨_, _, rfl, rfl, rfl, beq_self_eq_true _, beq_self_eq_true _⟩, by decide, ?_⟩
    rw [items_smallDocument, List.length_map]
    exact laid.count

end Laid

def smallNames : List String :=
  required ++ ["usr/share/doc/jcd543-trigger6/README.md",
    "usr/share/licenses/jcd543-trigger6-dkms/LICENSE"]

/-- Two files that are listed twice, the second time under other texts. -/
def respelledNames : List String :=
  required ++ ["usr/lib/jcd543-trigger6//controller.py", "usr/lib/jcd543-trigger6/./setup.py"]

theorem small_safe : ∀ name ∈ smallNames ++ respelledNames,
    Safe name ∧ name.toList.length ≤ 300 := by
  have spelled : smallNames ++ respelledNames = ([_, _, _, _, _, _, _, _, _, _] ++
    [_, _, _, _, _, _, _, _, _, _]).map String.ofList := rfl
  have files : allowedFiles = [_, _, _, _, _].map String.ofList := rfl
  have fronts : allowedPrefixes = [_, _, _, _].map String.ofList := rfl
  have slash : "/".toList = ['/'] := rfl
  have injective : String.ofList.Injective := fun _ _ => String.ofList_injective
  have within : ∀ name ∈ smallNames ++ respelledNames,
      above ∉ components name ∧ name.toList.length ≤ 300 := by
    rw [spelled]
    simp only [List.forall_mem_map, components_ofList, String.toList_ofList]
    decide
  have allowed : ∀ name ∈ smallNames ++ respelledNames,
      name ∈ allowedFiles ∨ ∃ front ∈ allowedPrefixes, startsWith front name = true := by
    rw [spelled, files, fronts]
    simp only [List.forall_mem_map, List.mem_map_of_injective injective, ← List.any_eq_true,
      List.any_map, Function.comp_def, startsWith, String.toList_ofList]
    decide
  have formed : ∀ name ∈ smallNames ++ respelledNames,
      name.toList ≠ [] ∧ startsWith "/" name = false ∧ plainName name = true := by
    rw [spelled]
    simp only [List.forall_mem_map, startsWith, plainName, slash, String.toList_ofList]
    decide
  exact fun name inside =>
    ⟨⟨(within name inside).1, allowed name inside, formed name inside⟩, (within name inside).2⟩

theorem small_apart : ∀ first ∈ manifest :: (smallNames ++ respelledNames),
    ∀ second ∈ manifest :: (smallNames ++ respelledNames),
      components first <+: components second → components first = components second := by
  have spelled : manifest :: (smallNames ++ respelledNames) = (_ :: ([_, _, _, _, _, _, _, _, _, _] ++
    [_, _, _, _, _, _, _, _, _, _])).map String.ofList := rfl
  rw [spelled]
  simp only [List.forall_mem_map, components_ofList]
  decide

theorem smallNames_laid : Laid smallNames where
  safe name inside := (small_safe name (List.mem_append_left _ inside)).1
  brief name inside := (small_safe name (List.mem_append_left _ inside)).2
  distinct := by
    have spelled : smallNames = [_, _, _, _, _, _, _, _, _, _].map String.ofList := rfl
    rw [spelled, List.nodup_map_iff fun _ _ => String.ofList_injective]
    decide
  complete _ inside := List.mem_append_left _ inside
  count := by decide
  apart first among second inside := small_apart
    first (List.cons_subset_cons _ (List.subset_append_left _ _) among)
    second (List.cons_subset_cons _ (List.subset_append_left _ _) inside)

theorem respelledNames_laid : Laid respelledNames where
  safe name inside := (small_safe name (List.mem_append_right _ inside)).1
  brief name inside := (small_safe name (List.mem_append_right _ inside)).2
  distinct := by
    have spelled : respelledNames = [_, _, _, _, _, _, _, _, _, _].map String.ofList := rfl
    rw [spelled, List.nodup_map_iff fun _ _ => String.ofList_injective]
    decide
  complete _ inside := List.mem_append_left _ inside
  count := by decide
  apart first among second inside := small_apart
    first (List.cons_subset_cons _ (List.subset_append_right _ _) among)
    second (List.cons_subset_cons _ (List.subset_append_right _ _) inside)

theorem verify_smallTree : verify smallPython (smallTree smallNames) [] 0 (.ok "0.1.0-1") =
    .ok (smallDocument smallNames) :=
  smallNames_laid.verify_smallTree

theorem inScope_small : InScope (smallTree smallNames) [] (listed (smallDocument smallNames)) := by
  refine (inScope_iff_spelled_apart verify_smallTree).2 ?_
  have spelled : smallNames = [_, _, _, _, _, _, _, _, _, _].map String.ofList := rfl
  have fronts : allowedPrefixes = [_, _, _, _].map String.ofList := rfl
  rw [listed_smallDocument, spelled, fronts, List.pairwise_map]
  simp only [List.forall_mem_map, components_ofList]
  decide

/-- An accepted manifest may list a file twice. -/
theorem not_inScope_respelled : ¬ ∀ (python : Python) (tree : Tree) (root : Path) (owner : Nat)
    (release : Except PyError String) (document : PyValue),
    verify python tree root owner release = .ok document → InScope tree root (listed document) := by
  intro claim
  have distinct := (claim _ _ _ _ _ _ respelledNames_laid.verify_smallTree).distinct
  rw [listed_smallDocument, respelledNames] at distinct
  obtain ⟨-, -, apart⟩ := List.pairwise_append.1 distinct
  have same : components "usr/lib/jcd543-trigger6/controller.py" =
      components "usr/lib/jcd543-trigger6//controller.py" := by
    have once : "usr/lib/jcd543-trigger6/controller.py" = String.ofList _ := rfl
    have twice : "usr/lib/jcd543-trigger6//controller.py" = String.ofList _ := rfl
    rw [once, twice, components_ofList, components_ofList]
    decide
  refine apart "usr/lib/jcd543-trigger6/controller.py" ?_
    "usr/lib/jcd543-trigger6//controller.py" List.mem_cons_self (congrArg _ ?_)
  · exact List.mem_append_right _ List.mem_cons_self
  · rw [same]

end Trigger6.Packaging
