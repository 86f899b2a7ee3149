import SyncHistory.Json.Reader
import SyncHistory.Json.Writer
import SyncHistory.Proofs.Digits
import SyncHistory.Proofs.Failure

/-!
# Documents and their texts

The compact text of a document is read as that document (`Json.read?_compact`), provided that it is plain
(`Json.IsPlain`): all of its numbers are whole, and it does not nest too deep.

`Json.ReadsBack` says this of a value in front of whatever follows it in a longer text, and with any amount
of fuel that is enough for its length. It goes from the parts of arrays and objects to the whole by the same
recursion that the writer goes by.
-/

namespace SyncHistory

namespace Json

/-! ## Strings -/

theorem nat?_hexDigits : ∀ n : Fin 32,
    Digits.nat? 16 ['0', '0', hexDigit (n.val / 16), hexDigit (n.val % 16)] = some n.val := by
  decide

/-- A control character is read from its code. -/
theorem codedChar?_of_lt {c : Char} (control : c.toNat < 32) (rest : List Char) :
    codedChar? ('0' :: '0' :: hexDigit (c.toNat / 16) :: hexDigit (c.toNat % 16) :: rest) = some (c, rest) := by
  have code : hex4? ('0' :: '0' :: hexDigit (c.toNat / 16) :: hexDigit (c.toNat % 16) :: rest) =
      some (c.toNat, rest) := by
    rw [hex4?, nat?_hexDigits ⟨c.toNat, control⟩]
    rfl
  refine (bind_of_eq_some code).trans ?_
  dsimp only
  rw [if_neg (by omega), if_neg (by omega), Char.ofNat_toNat]

/-- A character is read as it is written, whether it is escaped or not. -/
theorem stringRest?_escapeChar (fuel : Nat) (seen : List Char) (c : Char) (rest : List Char) :
    stringRest? (fuel + 1) seen (escapeChar c ++ rest) = stringRest? fuel (c :: seen) rest := by
  unfold escapeChar
  split
  · rfl
  · rfl
  · rfl
  · rfl
  · rfl
  · rename_i quote backslash _ _ _
    split
    · rename_i code
      rw [← c.ofNat_toNat, code]
      rfl
    · split
      · rename_i code
        rw [← c.ofNat_toNat, code]
        rfl
      · split
        · rename_i control
          simp only [List.cons_append, List.nil_append, stringRest?, codedChar?_of_lt control]
        · rename_i visible
          rw [List.singleton_append, stringRest?]
          · exact if_neg (not_or.mpr ⟨visible, backslash⟩)
          · exact quote
          · exact fun _ escape _ => backslash escape
          · exact fun _ _ escape _ => backslash escape

theorem stringRest?_flatMap (cs : List Char) {fuel : Nat} (enough : cs.length < fuel) (seen rest : List Char) :
    stringRest? fuel seen (cs.flatMap escapeChar ++ '"' :: rest) =
      some (String.ofList (seen.reverse ++ cs), rest) := by
  obtain ⟨fuel, rfl⟩ := Nat.exists_eq_add_of_lt enough
  clear enough
  induction cs generalizing seen with
  | nil =>
    rw [List.flatMap_nil, List.append_nil]
    rfl
  | cons c cs ih =>
    rw [List.flatMap_cons, List.append_assoc]
    have spent : (c :: cs).length + fuel + 1 = cs.length + fuel + 1 + 1 := by
      rw [List.length_cons]
      omega
    rw [spent, stringRest?_escapeChar, ih, List.reverse_cons, List.append_assoc, List.singleton_append]

/-! ## Numbers -/

theorem takeDigits_of_continueNat? {cs : List Char} {n m : Nat} (read : Digits.continueNat? 10 n cs = some m)
    (le : m ≤ maxUnsigned) : takeDigits n cs = (m, 0) := by
  induction cs generalizing n with
  | nil =>
    cases read
    rfl
  | cons c cs ih =>
    cases digit : Digits.value? 10 c with
    | none =>
      rw [Digits.continueNat?, digit] at read
      cases read
    | some d =>
      rw [Digits.continueNat?, digit] at read
      have grows := Digits.le_of_continueNat? (by decide) read
      rw [takeDigits, digit, Option.getD_some, if_pos (Nat.le_trans grows le), ih read]

/-- What follows a number in a document does not go on with it. -/
def EndsNumber (rest : List Char) : Prop :=
  ∀ c more, rest = c :: more → c = ',' ∨ c = ']' ∨ c = '\x7d'

theorem EndsNumber.cons {c : Char} {rest : List Char} (ends : c = ',' ∨ c = ']' ∨ c = '\x7d') :
    EndsNumber (c :: rest) := by
  rintro _ _ ⟨⟩
  exact ends

theorem unsignedNumber?_ofNat (negative : Bool) (n : Nat) {rest : List Char} (ends : EndsNumber rest) :
    unsignedNumber? negative (Digits.ofNat n ++ rest) =
      (numberOf? negative (Digits.ofNat n) none none).map fun n => (n, rest) := by
  have noDigit : rest.takeWhile Digits.isDecimal = [] ∧ rest.dropWhile Digits.isDecimal = rest ∧
      fraction? rest = some (none, rest) ∧ exponent? rest = some (none, rest) := by
    cases rest with
    | nil => exact ⟨rfl, rfl, rfl, rfl⟩
    | cons c more =>
      rcases ends c more rfl with rfl | rfl | rfl
      · exact ⟨rfl, rfl, rfl, rfl⟩
      · exact ⟨rfl, rfl, rfl, rfl⟩
      · exact ⟨rfl, rfl, rfl, rfl⟩
  obtain ⟨noRun, noDrop, noFraction, noExponent⟩ := noDigit
  have digits : spanDigits (Digits.ofNat n ++ rest) = (Digits.ofNat n, rest) := by
    rw [spanDigits, List.takeWhile_append_of_pos Digits.isDecimal_of_mem_ofNat, noRun, List.append_nil,
      List.dropWhile_append_of_pos Digits.isDecimal_of_mem_ofNat, noDrop]
  have noLeadingZero : Digits.ofNat n ≠ [] ∧
      ((Digits.ofNat n).head? ≠ some '0' ∨ (Digits.ofNat n).length = 1) := by
    refine ⟨Nat.toDigits_ne_nil, ?_⟩
    rcases Nat.eq_zero_or_pos n with rfl | pos
    · exact .inr rfl
    · exact .inl (Digits.head?_ofNat pos)
  rw [unsignedNumber?, digits]
  simp only [guard, if_pos noLeadingZero, noFraction, noExponent, Option.bind_eq_bind, Option.bind_some,
    pure_bind]
  cases numberOf? negative (Digits.ofNat n) none none with
  | none => rfl
  | some n => rfl

/-- Whole numbers of 64 bits, with a sign or without. -/
def IsShort (n : Int) : Prop := -(maxNegated : Int) ≤ n ∧ n ≤ maxUnsigned

theorem isShort_of_fitsSigned {bits : Nat} {n : Int} (le : bits ≤ 64)
    (fits : Digits.fitsSigned bits n = true) : IsShort n := by
  obtain ⟨below, above⟩ := (Bool.and_eq_true _ _).mp fits
  have below := of_decide_eq_true below
  have above := of_decide_eq_true above
  have bound : Nat.pow 2 (bits - 1) ≤ 2 ^ 63 := Nat.pow_le_pow_right (by decide) (by omega)
  rw [IsShort, maxNegated, maxUnsigned]
  omega

/-- What begins with a digit has no sign. -/
theorem number?_ofNat (n : Nat) (rest : List Char) :
    number? (Digits.ofNat n ++ rest) = unsignedNumber? false (Digits.ofNat n ++ rest) := by
  have first : ∀ c ∈ (Digits.ofNat n).head?, c ≠ '-' := by
    rintro c mem rfl
    exact absurd (Digits.isDecimal_of_mem_ofNat '-' (List.mem_of_mem_head? mem)) (by decide)
  cases digits : Digits.ofNat n with
  | nil => exact absurd digits Nat.toDigits_ne_nil
  | cons c cs =>
    rw [digits] at first
    have noSign : c ≠ '-' := first c rfl
    rw [List.cons_append]
    unfold number?
    split
    · rename_i sign
      exact absurd (List.cons.inj sign).1 noSign
    · rfl

theorem number?_text {n : Int} (short : IsShort n) {rest : List Char} (ends : EndsNumber rest) :
    number? ((Number.int n).text.toList ++ rest) = some (.int n, rest) := by
  obtain ⟨low, high⟩ := short
  rw [Number.text, Digits.intText, String.toList_ofList]
  cases n with
  | ofNat n =>
    have value : takeDigits 0 (Digits.ofNat n) = (n, 0) :=
      takeDigits_of_continueNat? (Digits.continueNat?_ofNat n) (Int.ofNat_le.mp high)
    rw [Digits.ofInt, number?_ofNat, unsignedNumber?_ofNat false n ends, numberOf?, value]
    rfl
  | negSucc n =>
    rw [maxNegated] at low
    have value : takeDigits 0 (Digits.ofNat (n + 1)) = (n + 1, 0) :=
      takeDigits_of_continueNat? (Digits.continueNat?_ofNat (n + 1)) (by rw [maxUnsigned]; omega)
    rw [Digits.ofInt]
    show unsignedNumber? true (Digits.ofNat (n + 1) ++ rest) = _
    rw [unsignedNumber?_ofNat true (n + 1) ends, numberOf?, value]
    dsimp only
    rw [if_neg (by simp), if_pos ⟨rfl, by omega, by rw [maxNegated]; omega⟩]
    rfl

/-! ## Documents -/

mutual

/-- The numbers of a document are whole and have at most 64 bits, and its arrays and objects nest less deep
than the given number. -/
def IsPlain : Nat → Json → Prop
  | _, .num (.int n) => IsShort n
  | _, .num (.double _) => False
  | depth, .arr items => 1 < depth ∧ ArePlainItems (depth - 1) items
  | depth, .obj fields => 1 < depth ∧ ArePlainFields (depth - 1) fields
  | _, .null | _, .bool _ | _, .str _ => True

@[inherit_doc IsPlain]
def ArePlainItems : Nat → List Json → Prop
  | _, [] => True
  | depth, j :: rest => IsPlain depth j ∧ ArePlainItems depth rest

@[inherit_doc IsPlain]
def ArePlainFields : Nat → List (String × Json) → Prop
  | _, [] => True
  | depth, (_, j) :: rest => IsPlain depth j ∧ ArePlainFields depth rest

end

theorem arePlainItems_map {α : Type} {write : α → Json} {depth : Nat} (as : List α)
    (each : ∀ a, IsPlain depth (write a)) : ArePlainItems depth (as.map write) := by
  induction as with
  | nil => trivial
  | cons a as ih => exact ⟨each a, ih⟩

theorem isPlain_ofOption {α : Type} {write : α → Json} {depth : Nat} {a : Option α}
    (each : ∀ b ∈ a, IsPlain depth (write b)) : IsPlain depth (.ofOption write a) := by
  cases a with
  | none => trivial
  | some b => exact each b rfl

/-- Whatever a value is written as, it begins with a character that is no blank and closes nothing. -/
def BeginsValue (cs : List Char) : Prop :=
  ∃ c more, cs = c :: more ∧ isSpace c = false ∧ c ≠ ']'

theorem BeginsValue.skipSpace {cs : List Char} (begins : BeginsValue cs) (rest : List Char) :
    skipSpace (cs ++ rest) = cs ++ rest := by
  obtain ⟨c, more, rfl, visible, -⟩ := begins
  rw [List.cons_append, Json.skipSpace, List.dropWhile_cons_of_neg]
  rw [visible]
  exact Bool.false_ne_true

/-- A number begins with a sign or a digit. -/
theorem exists_text (n : Int) :
    ∃ c more, (Number.int n).text.toList = c :: more ∧ (c = '-' ∨ Digits.isDecimal c = true) := by
  rw [Number.text, Digits.intText, String.toList_ofList]
  cases n with
  | ofNat n =>
    rw [Digits.ofInt]
    cases digits : Digits.ofNat n with
    | nil => exact absurd digits Nat.toDigits_ne_nil
    | cons c more =>
      have mem : c ∈ Digits.ofNat n := digits ▸ List.mem_cons_self
      exact ⟨c, more, rfl, .inr (Digits.isDecimal_of_mem_ofNat c mem)⟩
  | negSucc n => exact ⟨'-', _, rfl, .inl rfl⟩

theorem beginsValue_text (n : Int) : BeginsValue (Number.int n).text.toList := by
  obtain ⟨c, more, text, start⟩ := exists_text n
  have other {d : Char} (neither : ¬ (d = '-' ∨ Digits.isDecimal d = true)) : c ≠ d :=
    fun same => neither (same ▸ start)
  refine ⟨c, more, text, ?_, other (by decide)⟩
  simp only [isSpace, Bool.or_eq_false_iff, beq_eq_false_iff_ne]
  exact ⟨⟨⟨other (by decide), other (by decide)⟩, other (by decide)⟩, other (by decide)⟩

theorem toList_compact_str (s : String) :
    (compact (.str s)).toList = '"' :: (s.toList.flatMap escapeChar ++ ['"']) := by
  rw [compact, quote, String.toList_ofList, List.cons_append]

theorem toList_compact_arr (items : List Json) :
    (compact (.arr items)).toList = '[' :: ((compactItems items).toList ++ [']']) := by
  rw [compact, String.toList_append, String.toList_append]
  rfl

theorem toList_compact_obj (fields : List (String × Json)) :
    (compact (.obj fields)).toList = '\x7b' :: ((compactFields fields).toList ++ ['\x7d']) := by
  rw [compact, String.toList_append, String.toList_append]
  rfl

theorem beginsValue_compact {j : Json} {depth : Nat} (plain : IsPlain depth j) :
    BeginsValue j.compact.toList := by
  cases j with
  | null => exact ⟨_, _, rfl, rfl, by decide⟩
  | bool b => cases b <;> exact ⟨_, _, rfl, rfl, by decide⟩
  | num n =>
    cases n with
    | int n => exact beginsValue_text n
    | double x => exact plain.elim
  | str s => exact ⟨_, _, toList_compact_str s, rfl, by decide⟩
  | arr items => exact ⟨_, _, toList_compact_arr items, rfl, by decide⟩
  | obj fields => exact ⟨_, _, toList_compact_obj fields, rfl, by decide⟩

theorem toList_compactItems_cons (j k : Json) (items : List Json) :
    (compactItems (j :: k :: items)).toList =
      j.compact.toList ++ ',' :: (compactItems (k :: items)).toList := by
  rw [compactItems, String.toList_append, String.toList_append, List.append_assoc]
  · rfl
  · exact fun none => List.cons_ne_nil k items none

theorem toList_compactField (name : String) (j : Json) :
    (compactFields [(name, j)]).toList =
      '"' :: (name.toList.flatMap escapeChar ++ '"' :: ':' :: j.compact.toList) := by
  rw [compactFields, quote, String.toList_append, String.toList_append, String.toList_ofList]
  simp

theorem toList_compactFields_cons (name : String) (j : Json) (field : String × Json)
    (fields : List (String × Json)) :
    (compactFields ((name, j) :: field :: fields)).toList = '"' :: (name.toList.flatMap escapeChar ++
      '"' :: ':' :: (j.compact.toList ++ ',' :: (compactFields (field :: fields)).toList)) := by
  rw [compactFields, quote, String.toList_append, String.toList_append, String.toList_append,
    String.toList_append, String.toList_ofList]
  · simp
  · exact fun none => List.cons_ne_nil field fields none

theorem beginsValue_compactItems {j : Json} {items : List Json} {depth : Nat}
    (plain : ArePlainItems depth (j :: items)) : BeginsValue (compactItems (j :: items)).toList := by
  obtain ⟨c, more, text, visible, opens⟩ := beginsValue_compact plain.1
  cases items with
  | nil => exact ⟨c, more, text, visible, opens⟩
  | cons k items => exact ⟨c, _, by rw [toList_compactItems_cons, text, List.cons_append], visible, opens⟩

theorem exists_compactFields (field : String × Json) (fields : List (String × Json)) :
    ∃ more, (compactFields (field :: fields)).toList = '"' :: more := by
  cases fields with
  | nil => exact ⟨_, toList_compactField field.1 field.2⟩
  | cons other fields => exact ⟨_, toList_compactFields_cons field.1 field.2 other fields⟩

/-- With enough fuel the text of a document is read as that document, whatever comes behind it. -/
def ReadsBack (j : Json) : Prop :=
  ∀ (fuel depth : Nat) (rest : List Char), IsPlain depth j → 2 * j.compact.toList.length ≤ fuel →
    EndsNumber rest → value? fuel depth (j.compact.toList ++ rest) = some (j, rest)

def ItemsReadBack (items : List Json) : Prop :=
  ∀ (fuel depth : Nat) (rest : List Char), ArePlainItems depth items →
    2 * (compactItems items).toList.length < fuel →
    itemsBody? fuel depth ((compactItems items).toList ++ ']' :: rest) = some (items, rest)

def FieldsReadBack (fields : List (String × Json)) : Prop :=
  ∀ (fuel depth : Nat) (rest : List Char), ArePlainFields depth fields →
    2 * (compactFields fields).toList.length < fuel →
    fieldsBody? fuel depth ((compactFields fields).toList ++ '\x7d' :: rest) = some (fields, rest)

theorem readsBack_num (n : Int) : ReadsBack (.num (.int n)) := by
  intro fuel depth rest short enough ends
  have text : (compact (.num (.int n))).toList = (Number.int n).text.toList := by rw [compact]
  obtain ⟨c, more, start, sign⟩ := exists_text n
  rw [text, start, List.length_cons] at enough
  obtain ⟨fuel, rfl⟩ : ∃ f, fuel = f + 1 := ⟨fuel - 1, by omega⟩
  have number := number?_text short ends
  have begins := (beginsValue_text n).skipSpace rest
  rw [start, List.cons_append] at number begins
  rw [text, start, List.cons_append, value?, begins]
  -- a sign or a digit begins nothing but a number
  split
  all_goals first
    | rename_i same
      rw [(List.cons.inj same).1] at sign
      exact absurd sign (by decide)
    | rw [number]
      rfl

theorem length_le_flatMap_escapeChar (cs : List Char) : cs.length ≤ (cs.flatMap escapeChar).length := by
  have some (c : Char) : 0 < (escapeChar c).length := by
    unfold escapeChar
    repeat' split
    all_goals simp
  induction cs with
  | nil => exact Nat.zero_le _
  | cons c cs ih =>
    have first := some c
    rw [List.flatMap_cons, List.length_append, List.length_cons]
    omega

theorem readsBack_str (s : String) : ReadsBack (.str s) := by
  intro fuel depth rest _ enough _
  have visible := length_le_flatMap_escapeChar s.toList
  rw [toList_compact_str, List.length_cons, List.length_append, List.length_singleton] at enough
  obtain ⟨fuel, rfl⟩ : ∃ f, fuel = f + 1 := ⟨fuel - 1, by omega⟩
  rw [toList_compact_str, List.cons_append, List.append_assoc, List.singleton_append]
  show (stringRest? fuel [] (s.toList.flatMap escapeChar ++ '"' :: rest)).map _ = _
  rw [stringRest?_flatMap s.toList (by omega)]
  show some (Json.str (String.ofList s.toList), rest) = some (.str s, rest)
  rw [String.ofList_toList]

theorem readsBack_arr {items : List Json} (each : items ≠ [] → ItemsReadBack items) :
    ReadsBack (.arr items) := by
  intro fuel depth rest plain enough _
  obtain ⟨nests, plain⟩ := plain
  rw [toList_compact_arr, List.length_cons, List.length_append, List.length_singleton] at enough
  obtain ⟨fuel, rfl⟩ : ∃ f, fuel = f + 1 := ⟨fuel - 1, by omega⟩
  rw [toList_compact_arr, List.cons_append, List.append_assoc, List.singleton_append]
  have opened (cs : List Char) : skipSpace ('[' :: cs) = '[' :: cs := rfl
  simp only [value?, opened, if_neg (Nat.not_le.mpr nests)]
  cases items with
  | nil => rfl
  | cons j items =>
    have begins := beginsValue_compactItems plain
    rw [begins.skipSpace]
    obtain ⟨c, more, text, -, opens⟩ := begins
    have read := each (List.cons_ne_nil j items) fuel (depth - 1) rest plain (by omega)
    rw [text, List.cons_append] at read ⊢
    split
    · rename_i same
      exact absurd (List.cons.inj same).1 opens
    · rw [read]
      rfl

theorem readsBack_obj {fields : List (String × Json)} (each : fields ≠ [] → FieldsReadBack fields) :
    ReadsBack (.obj fields) := by
  intro fuel depth rest plain enough _
  obtain ⟨nests, plain⟩ := plain
  rw [toList_compact_obj, List.length_cons, List.length_append, List.length_singleton] at enough
  obtain ⟨fuel, rfl⟩ : ∃ f, fuel = f + 1 := ⟨fuel - 1, by omega⟩
  rw [toList_compact_obj, List.cons_append, List.append_assoc, List.singleton_append]
  have opened (cs : List Char) : skipSpace ('\x7b' :: cs) = '\x7b' :: cs := rfl
  simp only [value?, opened, if_neg (Nat.not_le.mpr nests)]
  cases fields with
  | nil => rfl
  | cons field fields =>
    have read := each (List.cons_ne_nil field fields) fuel (depth - 1) rest plain (by omega)
    obtain ⟨more, text⟩ := exists_compactFields field fields
    rw [text, List.cons_append] at read ⊢
    show ((fieldsBody? fuel (depth - 1) ('"' :: (more ++ '\x7d' :: rest))).map _) = _
    rw [read]
    rfl

theorem itemsReadBack_singleton {j : Json} (read : ReadsBack j) : ItemsReadBack [j] := by
  intro fuel depth rest plain enough
  rw [compactItems] at enough ⊢
  obtain ⟨fuel, rfl⟩ : ∃ f, fuel = f + 1 := ⟨fuel - 1, by omega⟩
  rw [itemsBody?, read fuel depth _ plain.1 (by omega) (.cons (by decide))]
  rfl

theorem itemsReadBack_cons {j k : Json} {items : List Json} (read : ReadsBack j)
    (others : ItemsReadBack (k :: items)) : ItemsReadBack (j :: k :: items) := by
  intro fuel depth rest plain enough
  rw [toList_compactItems_cons, List.length_append, List.length_cons] at enough
  obtain ⟨fuel, rfl⟩ : ∃ f, fuel = f + 1 := ⟨fuel - 1, by omega⟩
  rw [toList_compactItems_cons, List.append_assoc, List.cons_append, itemsBody?,
    read fuel depth _ plain.1 (by omega) (.cons (by decide))]
  show (itemsBody? fuel depth ((compactItems (k :: items)).toList ++ ']' :: rest)).map _ = _
  rw [others fuel depth rest plain.2 (by omega)]
  rfl

/-- A field is read up to its value, and then it depends on what comes behind it. -/
theorem fieldsBody?_field {fuel depth : Nat} (name : String) {j : Json} {rest : List Char}
    (enough : name.toList.length < fuel)
    (read : value? fuel depth (j.compact.toList ++ rest) = some (j, rest))
    {result : Option (List (String × Json) × List Char)}
    (behind : (match skipSpace rest with
      | '\x7d' :: rest => some ([(name, j)], rest)
      | ',' :: rest => (fieldsBody? fuel depth rest).map fun (fields, rest) => ((name, j) :: fields, rest)
      | _ => none) = result) :
    fieldsBody? (fuel + 1) depth
      ('"' :: (name.toList.flatMap escapeChar ++ '"' :: ':' :: (j.compact.toList ++ rest))) = result := by
  have quoted (cs : List Char) : skipSpace ('"' :: cs) = '"' :: cs := rfl
  have colon (cs : List Char) : skipSpace (':' :: cs) = ':' :: cs := rfl
  simp only [fieldsBody?, quoted, stringRest?_flatMap name.toList enough, List.reverse_nil, List.nil_append,
    String.ofList_toList, colon, read]
  exact behind

theorem fieldsReadBack_singleton (name : String) {j : Json} (read : ReadsBack j) :
    FieldsReadBack [(name, j)] := by
  intro fuel depth rest plain enough
  have visible := length_le_flatMap_escapeChar name.toList
  rw [toList_compactField] at enough ⊢
  simp only [List.length_cons, List.length_append] at enough
  obtain ⟨fuel, rfl⟩ : ∃ f, fuel = f + 1 := ⟨fuel - 1, by omega⟩
  simp only [List.cons_append, List.append_assoc]
  exact fieldsBody?_field name (by omega) (read fuel depth _ plain.1 (by omega) (.cons (by decide))) rfl

theorem fieldsReadBack_cons (name : String) {j : Json} {field : String × Json} {fields : List (String × Json)}
    (read : ReadsBack j) (others : FieldsReadBack (field :: fields)) :
    FieldsReadBack ((name, j) :: field :: fields) := by
  intro fuel depth rest plain enough
  have visible := length_le_flatMap_escapeChar name.toList
  rw [toList_compactFields_cons] at enough ⊢
  simp only [List.length_cons, List.length_append] at enough
  obtain ⟨fuel, rfl⟩ : ∃ f, fuel = f + 1 := ⟨fuel - 1, by omega⟩
  simp only [List.cons_append, List.append_assoc]
  refine fieldsBody?_field name (by omega) (read fuel depth _ plain.1 (by omega) (.cons (by decide))) ?_
  show (fieldsBody? fuel depth ((compactFields (field :: fields)).toList ++ '\x7d' :: rest)).map _ = _
  rw [others fuel depth rest plain.2 (by omega)]
  rfl

mutual

theorem readsBack : (j : Json) → ReadsBack j
  | .null => by
    intro fuel depth rest _ enough _
    obtain ⟨fuel, rfl⟩ : ∃ f, fuel = f + 1 := ⟨fuel - 1, by simp [compact] at enough; omega⟩
    rfl
  | .bool true => by
    intro fuel depth rest _ enough _
    obtain ⟨fuel, rfl⟩ : ∃ f, fuel = f + 1 := ⟨fuel - 1, by simp [compact] at enough; omega⟩
    rfl
  | .bool false => by
    intro fuel depth rest _ enough _
    obtain ⟨fuel, rfl⟩ : ∃ f, fuel = f + 1 := ⟨fuel - 1, by simp [compact] at enough; omega⟩
    rfl
  | .num (.int n) => readsBack_num n
  | .num (.double _) => fun _ _ _ plain => plain.elim
  | .str s => readsBack_str s
  | .arr items => readsBack_arr (itemsReadBack items)
  | .obj fields => readsBack_obj (fieldsReadBack fields)

theorem itemsReadBack : (items : List Json) → items ≠ [] → ItemsReadBack items
  | [] => fun none => absurd rfl none
  | [j] => fun _ => itemsReadBack_singleton (readsBack j)
  | j :: k :: items => fun _ =>
    itemsReadBack_cons (readsBack j) (itemsReadBack (k :: items) (List.cons_ne_nil k items))

theorem fieldsReadBack : (fields : List (String × Json)) → fields ≠ [] → FieldsReadBack fields
  | [] => fun none => absurd rfl none
  | [(name, j)] => fun _ => fieldsReadBack_singleton name (readsBack j)
  | (name, j) :: field :: fields => fun _ =>
    fieldsReadBack_cons name (readsBack j)
      (fieldsReadBack (field :: fields) (List.cons_ne_nil field fields))

end

/-- The text of a document is read as that document. -/
theorem read?_compact {j : Json} (plain : IsPlain maxDepth j) : read? j.compact = some j := by
  have read := readsBack j (2 * j.compact.toList.length + 2) maxDepth [] plain (by omega)
    fun _ _ some => nomatch some
  rw [List.append_nil] at read
  rw [read?, read]
  rfl

end Json

end SyncHistory
