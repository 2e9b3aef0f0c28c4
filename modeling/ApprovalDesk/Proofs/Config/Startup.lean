import Mathlib.Data.List.TakeWhile
import ApprovalDesk.Proofs.Config.Validity

/-!
# Starting with a validity

Whether the desk starts at all depends on its environment, and the validity of tokens is looked at
first. It may be left unset, spelled as a decimal integer within the range, or be one of the words for 1,
which are taken for a day; nothing else is a validity. What is told of a faulty environment is the fault
of its first faulty setting.
-/

namespace ApprovalDesk

set_option autoImplicit false

open ApprovalDesk.Text

namespace Environment

/-! ## Variables and their settings -/

/-- A name without two underscores in a row is read in lower case. -/
theorem pathChars_eq_map {cs : List Char} (single : ¬ ['_', '_'] <:+: cs) :
    pathChars cs = cs.map lowerChar := by
  induction cs using pathChars.induct with
  | case1 rest ih => exact absurd ⟨[], rest, rfl⟩ single
  | case2 c rest other ih =>
    have inner : ¬ ['_', '_'] <:+: rest := fun pair => single (pair.trans (List.suffix_cons c rest).isInfix)
    rw [pathChars, ih inner, List.map_cons]
    exact other
  | case3 => rfl

/-- A variable with the name of a setting, in any case, gives the text of that setting. -/
theorem place_of_name {name key : String} (spelled : name.toList.map lowerChar = key.toList)
    (single : ¬ ['_', '_'] <:+: key.toList) (plain : key.toList.all isNameChar = true)
    (value : String) : place name value = (key, .text value) := by
  have path : pathChars name.toList = key.toList := by
    rw [pathChars_eq_map, spelled]
    intro pair
    apply single
    rw [← spelled]
    exact pair.map lowerChar
  have whole : key.toList.dropWhile isNameChar = [] :=
    List.dropWhile_eq_nil_iff.2 (List.all_eq_true.1 plain)
  unfold place
  dsimp only
  rw [path, whole, List.isEmpty_nil, Bool.or_true, Bool.true_or, if_pos rfl, String.ofList_toList]

/-- A setting is not there if no variable belongs to it. -/
theorem setting?_eq_none_iff {env : Environment} {key : String} :
    env.setting? key = none ↔ ∀ v ∈ env, (place v.1 v.2).1 ≠ key := by
  unfold setting?
  dsimp only
  rw [Option.or_eq_none_iff, List.getLast?_eq_none_iff, List.getLast?_eq_none_iff]
  constructor
  · rintro ⟨-, nothing⟩ v member own
    rw [List.map_eq_nil_iff, List.filter_eq_nil_iff] at nothing
    exact nothing _ (List.mem_map_of_mem member) (beq_iff_eq.2 own)
  · intro others
    have nothing : (env.map fun v => place v.1 v.2).filter (·.1 == key) = [] := by
      rw [List.filter_eq_nil_iff]
      intro placed member
      obtain ⟨v, inside, rfl⟩ := List.mem_map.1 member
      rw [beq_iff_eq]
      exact others v inside
    rw [nothing]
    exact ⟨rfl, rfl⟩

end Environment

namespace Config

/-! ## Integers as they are spelled -/

/-- The text is a decimal integer: digits after at most one sign. -/
inductive Spells : String → Int → Prop where
  | unsigned {digits : List Char} (given : digits ≠ [])
      (decimal : ∀ c ∈ digits, Decimal.isDigit c = true) :
      Spells (String.ofList digits) (Decimal.toNat digits)
  | plus {digits : List Char} (given : digits ≠ [])
      (decimal : ∀ c ∈ digits, Decimal.isDigit c = true) :
      Spells (String.ofList ('+' :: digits)) (Decimal.toNat digits)
  | minus {digits : List Char} (given : digits ≠ [])
      (decimal : ∀ c ∈ digits, Decimal.isDigit c = true) :
      Spells (String.ofList ('-' :: digits)) (-(Decimal.toNat digits : Int))

/-- A word for 1, in any case. -/
def IsYes (s : String) : Prop :=
  String.ofList (s.toList.map Char.toLower) ∈ ["true", "on", "yes"]

/-- A word for 0, in any case. -/
def IsNo (s : String) : Prop :=
  String.ofList (s.toList.map Char.toLower) ∈ ["false", "off", "no"]

theorem number?_eq_some_iff {cs : List Char} {n : Nat} : Decimal.number? cs = some n ↔
    cs ≠ [] ∧ (∀ c ∈ cs, Decimal.isDigit c = true) ∧ Decimal.toNat cs = n := by
  unfold Decimal.number?
  split
  · next faulty =>
    constructor
    · intro nothing
      cases nothing
    · rintro ⟨given, decimal, -⟩
      rcases Bool.or_eq_true_iff.1 faulty with empty | strange
      · exact absurd (List.isEmpty_iff.1 empty) given
      · obtain ⟨c, member, bad⟩ := List.any_eq_true.1 strange
        rw [decimal c member] at bad
        cases bad
  · next sound =>
    rw [Bool.or_eq_true, not_or, List.isEmpty_iff, Bool.not_eq_true, List.any_eq_false] at sound
    constructor
    · intro read
      exact ⟨sound.1, fun c member => by simpa using sound.2 c member, Option.some.inj read⟩
    · rintro ⟨-, -, value⟩
      rw [value]

/-- What is read behind a sign are digits. -/
theorem signed_eq_some_iff {digits : List Char} {sign : Int → Int} {n : Int} :
    (Option.map sign do return ((← Decimal.number? digits : Nat) : Int)) = some n ↔
      digits ≠ [] ∧ (∀ c ∈ digits, Decimal.isDigit c = true) ∧ sign (Decimal.toNat digits) = n := by
  constructor
  · intro read
    cases number : Decimal.number? digits with
    | none =>
      rw [number] at read
      cases read
    | some m =>
      rw [number] at read
      obtain ⟨given, decimal, rfl⟩ := number?_eq_some_iff.1 number
      exact ⟨given, decimal, Option.some.inj read⟩
  · rintro ⟨given, decimal, rfl⟩
    rw [number?_eq_some_iff.2 ⟨given, decimal, rfl⟩]
    rfl

theorem decimal?_eq_some_iff {s : String} {n : Int} : decimal? s = some n ↔ Spells s n := by
  constructor
  · intro read
    rw [← String.ofList_toList (s := s)]
    unfold decimal? at read
    split at read
    · next digits text =>
      obtain ⟨given, decimal, rfl⟩ := signed_eq_some_iff.1 read
      rw [text]
      exact .minus given decimal
    · next digits text =>
      obtain ⟨given, decimal, rfl⟩ := signed_eq_some_iff.1 read
      rw [text]
      exact .plus given decimal
    · obtain ⟨given, decimal, rfl⟩ := signed_eq_some_iff.1 read
      exact .unsigned given decimal
  · intro spelled
    cases spelled with
    | @unsigned digits given decimal =>
      -- no sign is a digit, so digits alone are not taken for a signed number
      have noSign (sign : Char) (bad : Decimal.isDigit sign = false) (rest : List Char) :
          digits ≠ sign :: rest := by
        rintro rfl
        rw [decimal sign List.mem_cons_self] at bad
        cases bad
      unfold decimal?
      rw [String.toList_ofList]
      split
      · next rest => exact absurd rfl (noSign '-' rfl rest)
      · next rest => exact absurd rfl (noSign '+' rfl rest)
      · exact signed_eq_some_iff.2 ⟨given, decimal, rfl⟩
    | plus given decimal =>
      rw [decimal?, String.toList_ofList]
      exact signed_eq_some_iff.2 ⟨given, decimal, rfl⟩
    | minus given decimal =>
      rw [decimal?, String.toList_ofList]
      exact signed_eq_some_iff.2 ⟨given, decimal, rfl⟩

/-- A digit or a sign, which has no case. -/
theorem toLower_of_spells {s : String} {n : Int} (spelled : Spells s n) :
    ∀ c ∈ s.toList, c.toLower ∉ ['t', 'o', 'y', 'f', 'n'] := by
  have caseless (c : Char) (digit : Decimal.isDigit c = true) :
      c.toLower ∉ ['t', 'o', 'y', 'f', 'n'] := by
    -- the ten digits are checked one by one, and every digit is found among them by its number
    have range : 48 ≤ c.toNat ∧ c.toNat ≤ 57 := by
      simpa [Decimal.isDigit, Char.le_def, UInt32.le_iff_toNat_le] using digit
    have every : ∀ d < 10, (Char.ofNat (48 + d)).toLower ∉ ['t', 'o', 'y', 'f', 'n'] := by decide
    have found := every (c.toNat - 48) (by omega)
    rwa [Nat.add_sub_cancel' range.1, Char.ofNat_toNat] at found
  cases spelled with
  | unsigned given decimal =>
    rw [String.toList_ofList]
    exact fun c member => caseless c (decimal c member)
  | plus given decimal =>
    rw [String.toList_ofList, List.forall_mem_cons]
    exact ⟨by decide, fun c member => caseless c (decimal c member)⟩
  | minus given decimal =>
    rw [String.toList_ofList, List.forall_mem_cons]
    exact ⟨by decide, fun c member => caseless c (decimal c member)⟩

/-! ## Integers as they are read -/

/-- What a text means where an integer of 64 bits is expected. -/
inductive Means (s : String) : Int → Prop where
  | yes (word : IsYes s) : Means s 1
  | no (word : IsNo s) : Means s 0
  | number {n : Int} (spelled : Spells s n)
      (fits : -9223372036854775808 ≤ n ∧ n ≤ 9223372036854775807) : Means s n

theorem wordValue?_of_yes {s : String} (word : IsYes s) : wordValue? s = some 1 := by
  unfold wordValue?
  rw [if_pos (by simpa [IsYes] using word)]

theorem wordValue?_of_no {s : String} (word : IsNo s) : wordValue? s = some 0 := by
  unfold IsNo at word
  unfold wordValue?
  dsimp only
  generalize String.ofList (s.toList.map Char.toLower) = lower at word
  have words : lower = "false" ∨ lower = "off" ∨ lower = "no" := by simpa using word
  rcases words with rfl | rfl | rfl <;> rfl

/-- No number is a word. -/
theorem wordValue?_of_spells {s : String} {n : Int} (spelled : Spells s n) : wordValue? s = none := by
  have caseless := toLower_of_spells spelled
  -- each word begins with a letter that a number has nowhere, in whatever case
  have strange {c : Char} (letter : c ∈ ['t', 'o', 'y', 'f', 'n']) (rest : List Char) :
      s.toList.map Char.toLower ≠ c :: rest := by
    intro same
    obtain ⟨d, ds, whole, lower, -⟩ := List.map_eq_cons_iff.1 same
    have inside : d ∈ s.toList := by
      rw [whole]
      exact List.mem_cons_self
    exact caseless d inside (lower ▸ letter)
  have noWord (word : String) (first : word.toList.head?.any (['t', 'o', 'y', 'f', 'n'].contains ·)) :
      String.ofList (s.toList.map Char.toLower) ≠ word := by
    rintro rfl
    rw [String.toList_ofList] at first
    cases letters : s.toList.map Char.toLower with
    | nil =>
      rw [letters] at first
      cases first
    | cons c rest =>
      rw [letters] at first
      exact strange (List.contains_iff_mem.1 first) rest letters
  unfold wordValue?
  dsimp only
  rw [if_neg, if_neg]
  · rintro (word | word | word) <;> exact noWord _ (by decide) word
  · rintro (word | word | word) <;> exact noWord _ (by decide) word

theorem signed?_eq_some_iff {s : String} {n : Int} : signed? s = some n ↔ Means s n := by
  constructor
  · intro read
    unfold signed? at read
    split at read
    · next m word =>
      unfold wordValue? at word
      dsimp only at word
      split at word
      · next yes =>
        cases word
        cases read
        exact .yes (by simpa [IsYes] using yes)
      · split at word
        · next no =>
          cases word
          cases read
          exact .no (by simpa [IsNo] using no)
        · cases word
    · obtain ⟨number, fits⟩ := Option.filter_eq_some_iff.1 read
      exact .number (decimal?_eq_some_iff.1 number) (by simpa using fits)
  · intro meaning
    unfold signed?
    cases meaning with
    | yes word => rw [wordValue?_of_yes word]; rfl
    | no word => rw [wordValue?_of_no word]; rfl
    | number spelled fits =>
      rw [wordValue?_of_spells spelled]
      exact Option.filter_eq_some_iff.2 ⟨decimal?_eq_some_iff.2 spelled, by simpa using fits⟩

/-! ## The validity -/

/-- What an environment gives as the validity of tokens, in days. -/
inductive Lifetime (env : Environment) : Int → Prop where
  | unset (others : ∀ v ∈ env, (Environment.place v.1 v.2).1 ≠ ttlKey) : Lifetime env 7
  | number {value : String} {days : Int} (given : env.setting? ttlKey = some (.text value))
      (spelled : Spells value days) (least : 1 ≤ days) (most : days ≤ 3650) : Lifetime env days
  | word {value : String} (given : env.setting? ttlKey = some (.text value)) (yes : IsYes value) :
      Lifetime env 1

variable {env : Environment}

theorem ttlDays_of_unset (unset : env.setting? ttlKey = none) : ttlDays env = .ok 7 := by
  unfold ttlDays
  rw [unset]
  rfl

theorem ttlDays_of_text {value : String} (given : env.setting? ttlKey = some (.text value)) :
    ttlDays env = match signed? value with
      | some days =>
        if 1 ≤ days ∧ days ≤ maxTtlDays then .ok days else .error (.ttlOutOfRange days)
      | none => .error (.noInteger ttlKey value) := by
  unfold ttlDays
  rw [given]
  dsimp only
  cases signed? value <;> rfl

theorem ttlDays_eq_ok_iff {days : Int} : ttlDays env = .ok days ↔ Lifetime env days := by
  constructor
  · intro read
    cases given : env.setting? ttlKey with
    | none =>
      rw [ttlDays_of_unset given] at read
      cases read
      exact .unset (Environment.setting?_eq_none_iff.1 given)
    | some setting =>
      cases setting with
      | text value =>
        rw [ttlDays_of_text given] at read
        split at read
        · next found meaning =>
          split at read
          · next range =>
            cases read
            cases signed?_eq_some_iff.1 meaning with
            | yes word => exact .word given word
            | no word => exact absurd range.1 (by decide)
            | number spelled fits => exact .number given spelled range.1 range.2
          · cases read
        · cases read
      | table | list =>
        unfold ttlDays at read
        rw [given] at read
        cases read
  · intro lifetime
    cases lifetime with
    | unset others => exact ttlDays_of_unset (Environment.setting?_eq_none_iff.2 others)
    | number given spelled least most =>
      have meaning := signed?_eq_some_iff.2 (.number spelled (by omega))
      rw [ttlDays_of_text given, meaning]
      exact if_pos ⟨least, most⟩
    | word given word =>
      rw [ttlDays_of_text given, signed?_eq_some_iff.2 (.yes word)]
      rfl

/-! ## The first fault -/

/-- The setting that an error is about. -/
def Error.key : Error → String
  | .notFound key | .noInteger key _ | .unexpectedTable key _ | .unexpectedList key _ => key
  | .noPort _ => "port"
  | .ttlOutOfRange _ => ttlKey

theorem key_of_ttlDays {e : Error} (faulty : ttlDays env = .error e) : e.key = ttlKey := by
  cases given : env.setting? ttlKey with
  | none =>
    rw [ttlDays_of_unset given] at faulty
    cases faulty
  | some setting =>
    cases setting with
    | text value =>
      rw [ttlDays_of_text given] at faulty
      split at faulty
      · split at faulty <;> cases faulty
        rfl
      · cases faulty
        rfl
    | table | list =>
      unfold ttlDays at faulty
      rw [given] at faulty
      cases faulty
      rfl

/-- What is wrong with a setting, if anything is. -/
def fault? {α : Type} : Except Error α → Option Error
  | .ok _ => none
  | .error e => some e

/-- What is wrong with the first setting that is faulty. -/
def firstFault (env : Environment) : Option Error :=
  (fault? (ttlDays env)).or <| (fault? (text env "base_url")).or <| (fault? (readPort env)).or <|
    (fault? (text env "sender_address")).or <| (fault? (text env "admin_recipient")).or none

theorem fault?_bind {α β : Type} {f : α → Except Error β} {later : Option Error} (x : Except Error α)
    (next : ∀ a, fault? (f a) = later) : fault? (x >>= f) = (fault? x).or later := by
  cases x with
  | error e => rfl
  | ok a => exact next a

theorem fault?_ofEnvironment (env : Environment) : fault? (ofEnvironment env) = firstFault env := by
  unfold ofEnvironment firstFault
  apply fault?_bind
  intro days
  apply fault?_bind
  intro baseUrl
  apply fault?_bind
  intro port
  apply fault?_bind
  intro sender
  apply fault?_bind
  intro recipient
  rfl

theorem eq_error_iff {α : Type} {x : Except Error α} {e : Error} :
    x = .error e ↔ fault? x = some e := by
  cases x <;> simp [fault?]

theorem exists_ok_iff {α : Type} {x : Except Error α} : (∃ a, x = .ok a) ↔ fault? x = none := by
  cases x <;> simp [fault?]

/-- **The desk starts only with a validity.** It is given by the variable of its name in any case. Its
number of days is 7 if no variable gives it, and else the decimal integer from 1 to 3650 that is given, or
1 for one of the words that mean it; where nothing of the kind is given, there is an error about it. What
is told of an environment that cannot be used is its first fault, the validity coming before the base
address, the port, the sender and the administrator. -/
theorem starts_only_with_a_lifetime (env : Environment) :
    (∀ name value, name.toList.map Environment.lowerChar = ttlKey.toList →
      Environment.place name value = (ttlKey, .text value)) ∧
    (∀ c, ofEnvironment env = .ok c →
      Lifetime env c.tokenTtlDays ∧ c.settings.ttlDays = c.tokenTtlDays) ∧
    (∀ days, ttlDays env = .ok days ↔ Lifetime env days) ∧
    (∀ e, ttlDays env = .error e → e.key = ttlKey ∧ ofEnvironment env = .error e) ∧
    (∀ e, ofEnvironment env = .error e ↔ firstFault env = some e) ∧
    ((∃ c, ofEnvironment env = .ok c) ↔ firstFault env = none) := by
  refine ⟨fun name value spelled => ?_, fun c configured => ?_, fun days => ttlDays_eq_ok_iff,
    fun e faulty => ?_, fun e => ?_, ?_⟩
  · exact Environment.place_of_name spelled (by decide +kernel) (by decide +kernel) value
  · exact ⟨ttlDays_eq_ok_iff.1 (ttlDays_of_ofEnvironment configured), ttlDays_settings c⟩
  · refine ⟨key_of_ttlDays faulty, ?_⟩
    rw [eq_error_iff, fault?_ofEnvironment, firstFault, eq_error_iff.1 faulty]
    rfl
  · rw [eq_error_iff, fault?_ofEnvironment]
  · rw [exists_ok_iff, fault?_ofEnvironment]

/-- An environment in which the validity is a word. -/
def wordyEnvironment : Environment := [
  ("TOKEN_TTL_DAYS", "true"), ("BASE_URL", "https://desk.example.com"), ("PORT", "8080"),
  ("SENDER_ADDRESS", "desk@example.com"), ("ADMIN_RECIPIENT", "admin@example.com")]

/-- A validity that is neither left out nor a number starts the desk. -/
theorem word_is_taken_for_a_day : ¬ ∀ (env : Environment) (c : Config), ofEnvironment env = .ok c →
    ((∀ v ∈ env, (Environment.place v.1 v.2).1 ≠ ttlKey) ∧ c.tokenTtlDays = 7) ∨
    ∃ value days, env.setting? ttlKey = some (.text value) ∧ Spells value days ∧
      1 ≤ days ∧ days ≤ 3650 ∧ c.tokenTtlDays = days := by
  intro numbersOnly
  have given : wordyEnvironment.setting? ttlKey = some (.text "true") := by decide +kernel
  have started : (ofEnvironment wordyEnvironment).isOk = true := by decide +kernel
  cases configured : ofEnvironment wordyEnvironment with
  | error e =>
    rw [configured] at started
    cases started
  | ok c =>
    rcases numbersOnly wordyEnvironment c configured with ⟨others, -⟩ | ⟨value, days, text, spelled, -⟩
    · rw [Environment.setting?_eq_none_iff.2 others] at given
      cases given
    · rw [given] at text
      cases text
      have number := decimal?_eq_some_iff.2 spelled
      have word : decimal? "true" = none := by decide +kernel
      rw [word] at number
      cases number

end Config

end ApprovalDesk
