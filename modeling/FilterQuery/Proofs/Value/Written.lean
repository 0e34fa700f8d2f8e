import FilterQuery.Proofs.Json.Written
import FilterQuery.Value.Json

/-!
Values without doubles survive their JSON. An integer is written in digits that are an integer again and fit into a word; a list
is an array, one level deeper than its items; and the kinds of a value are told apart by the document. So every such value
that does not nest too deep is read back as it was, from one line or from many. -/

namespace FilterQuery.Value

/-- No double stands in the value, at any depth. -/
inductive NoFloat : Value → Prop
  | bool (b : Bool) : NoFloat (.bool b)
  | int (n : Int64) : NoFloat (.int n)
  | str (s : String) : NoFloat (.str s)
  | list {items : List Value} (h : ∀ v ∈ items, NoFloat v) : NoFloat (.list items)

mutual

/-- How many lists stand inside one another. -/
def nesting : Value → Nat
  | list items => nestingOfAll items + 1
  | _ => 0

def nestingOfAll : List Value → Nat
  | [] => 0
  | v :: vs => max v.nesting (nestingOfAll vs)

end

variable {v : Value} {items : List Value}

theorem nestingOfAll_le_iff {levels : Nat} : nestingOfAll items ≤ levels ↔ ∀ v ∈ items, v.nesting ≤ levels := by
  induction items with
  | nil => simp [nestingOfAll]
  | cons v items ih => rw [nestingOfAll, Nat.max_le, ih, List.forall_mem_cons]

theorem toJsonAll_eq_map (items : List Value) : toJsonAll items = items.map toJson := by
  induction items with
  | nil => rfl
  | cons v items ih => rw [toJsonAll, ih, List.map_cons]

/-! ### Integers -/

def numeral (n : Int) : Numeral :=
  ⟨decide (n < 0), Nat.toDigits 10 n.natAbs, none, none⟩

theorem spells_writeInt (n : Int) : Json.Spells (writeInt n) [.number (numeral n)] := by
  rw [writeInt, numeral]
  by_cases hn : n < 0
  · rw [if_pos hn, decide_eq_true hn]
    exact Json.spells_minus_toDigits (Int.natAbs_pos.mpr (Int.ne_of_lt hn))
  · rw [if_neg hn, decide_eq_false hn]
    exact Json.spells_toDigits n.natAbs

theorem coefficient_numeral (n : Int) : (numeral n).coefficient = n.natAbs := by
  rw [Numeral.coefficient, numeral, Option.getD_none, List.append_nil]
  exact Nat.ofDigitChars_ten_toDigits

theorem toInt_numeral (n : Int) : (numeral n).toInt = n := by
  rw [Numeral.toInt, coefficient_numeral, numeral]
  by_cases hn : n < 0
  · rw [if_pos (decide_eq_true hn)]
    omega
  · rw [if_neg (by simpa using hn)]
    omega

/-- A word is an integer of JSON. -/
theorem ofNumeral?_numeral (n : Int64) : Json.Number.ofNumeral? (numeral n.toInt) = some (.integer n.toInt) := by
  have hlow : -2 ^ 63 ≤ n.toInt := n.le_toInt
  have hhigh : n.toInt < 2 ^ 63 := n.toInt_lt
  have hnegative : (numeral n.toInt).negative = decide (n.toInt < 0) := rfl
  have hfits : (if (numeral n.toInt).negative then n.toInt.natAbs != 0 && n.toInt.natAbs ≤ 2 ^ 63
      else n.toInt.natAbs < 2 ^ 64 : Bool) = true := by
    rw [hnegative]
    by_cases hn : n.toInt < 0
    · rw [if_pos (decide_eq_true hn), Bool.and_eq_true, bne_iff_ne, decide_eq_true_eq]
      omega
    · rw [if_neg (by simpa using hn), decide_eq_true_eq]
      omega
  have hinteger : (numeral n.toInt).isInteger = true := rfl
  simp only [Json.Number.ofNumeral?, coefficient_numeral, toInt_numeral]
  exact if_pos (Bool.and_eq_true_iff.mpr ⟨hinteger, hfits⟩)

theorem ofInteger_toInt (n : Int64) : ofInteger n.toInt = int n := by
  have hrange : Int64.minValue.toInt ≤ n.toInt ∧ n.toInt ≤ Int64.maxValue.toInt :=
    ⟨Int64.le_iff_toInt_le.mp n.minValue_le, Int64.le_iff_toInt_le.mp n.le_maxValue⟩
  rw [ofInteger, if_pos hrange, Int64.ofInt_toInt]

/-! ### Values -/

theorem hasNumbers_toJson (h : v.NoFloat) : v.toJson.HasNumbers := by
  induction h with
  | bool b => exact .bool b
  | int n => exact .number (spells_writeInt n.toInt)
  | str s => exact .string s
  | list _ ih =>
      rw [toJson, toJsonAll_eq_map]
      exact .array (List.forall_mem_map.mpr ih)

theorem doc_toJson_int (n : Int64) : (int n).toJson.doc = .number (numeral n.toInt) := by
  rw [toJson, Json.Tree.doc, Json.Tree.ofText_of_number (spells_writeInt n.toInt)]

theorem doc_toJson_list (items : List Value) : (list items).toJson.doc = .array (items.map fun v => v.toJson.doc) true := by
  rw [toJson, Json.Tree.doc, Json.Tree.docOfItems_eq_map, toJsonAll_eq_map, List.map_map]
  rfl

theorem isReadable_toJson (h : v.NoFloat) {levels : Nat} (hlevels : v.nesting ≤ levels) :
    v.toJson.doc.isReadable levels = true := by
  induction h generalizing levels with
  | bool | str => cases levels <;> rfl
  | int n =>
      rw [doc_toJson_int]
      cases levels <;> simp [Json.Doc.isReadable, ofNumeral?_numeral]
  | @list items _ ih =>
      rw [nesting] at hlevels
      obtain ⟨levels, rfl⟩ := Nat.exists_eq_add_one_of_ne_zero (Nat.ne_zero_of_lt hlevels)
      rw [doc_toJson_list, Json.Doc.isReadable, Bool.true_and, List.all_map, List.all_eq_true]
      exact fun v hv => ih v hv (nestingOfAll_le_iff.mp (Nat.le_of_succ_le_succ hlevels) v hv)

theorem ofDocs?_map (h : ∀ v ∈ items, ofDoc? v.toJson.doc = some v) :
    ofDocs? (items.map fun v => v.toJson.doc) = some items := by
  induction items with
  | nil => rfl
  | cons v items ih =>
      obtain ⟨hv, hitems⟩ := List.forall_mem_cons.mp h
      simp only [List.map_cons, ofDocs?, hv, ih hitems]

theorem ofDoc?_toJson (h : v.NoFloat) : ofDoc? v.toJson.doc = some v := by
  induction h with
  | bool | str => rfl
  | int n => simp only [doc_toJson_int, ofDoc?, ofNumeral?_numeral, ofInteger_toInt]
  | list _ ih => rw [doc_toJson_list, ofDoc?, ofDocs?_map ih, Option.map_some]

theorem read_toJson (h : v.NoFloat) {levels : Nat} (hlevels : v.nesting ≤ levels) : read levels v.toJson.doc = .ok v := by
  rw [read, if_pos (isReadable_toJson h hlevels), ofDoc?_toJson h]

/-- A value without doubles, whose lists nest no deeper than JSON may, is what its JSON is read as, on one line or over many
lines from any level on. -/
theorem ofJson_written (hfloat : v.NoFloat) (hnesting : v.nesting ≤ 127) :
    ofJson (String.ofList v.toJson.compact) = .ok v ∧ ∀ level, ofJson (String.ofList (v.toJson.indented level)) = .ok v := by
  have hread : read Json.maxDepth v.toJson.doc = .ok v := read_toJson hfloat hnesting
  refine ⟨?_, fun level => ?_⟩
  · rw [ofJson, Json.Tree.read_compact (hasNumbers_toJson hfloat), hread]
  · rw [ofJson, Json.Tree.read_indented (hasNumbers_toJson hfloat), hread]

/-- The least word, a string of escapes and an empty list, inside a list. -/
theorem ofJson_written_list :
    let v : Value := .list [.int Int64.minValue, .str "\x00\"\\é", .bool false, .list []]
    String.ofList v.toJson.compact = "[-9223372036854775808,\"\\u0000\\\"\\\\é\",false,[]]" ∧
      ofJson (String.ofList v.toJson.compact) = .ok v ∧ ∀ level, ofJson (String.ofList (v.toJson.indented level)) = .ok v := by
  intro v
  have hfloat : v.NoFloat := by
    refine .list ?_
    simp only [List.forall_mem_cons]
    exact ⟨.int _, .str _, .bool _, .list (by simp), by simp⟩
  exact ⟨by decide +kernel, ofJson_written hfloat (by decide)⟩

end FilterQuery.Value
