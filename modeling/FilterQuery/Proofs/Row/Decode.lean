import FilterQuery.Proofs.Failure.Steps
import FilterQuery.Proofs.Record.Columns
import FilterQuery.Row.Decode
import Mathlib.Data.List.Induction

/-!
Decoded rows. A row is asked for the columns that attributes name, and answers with those that it holds. Where several
attributes name one column, the last of them says how its cell is read, but the first attribute that cannot be read ends the
work. What else the row holds does not matter. -/

namespace FilterQuery

/-- No attribute after it is for the same column. -/
def Attribute.IsLastIn (a : Attribute) (attributes : List Attribute) : Prop :=
  ∃ before after, attributes = before ++ a :: after ∧ ∀ b ∈ after, b.column ≠ a.column

theorem Attribute.IsLastIn.of_concat {a b : Attribute} {attributes : List Attribute} (h : b.IsLastIn (attributes ++ [a])) :
    b = a ∨ b.IsLastIn attributes ∧ b.column ≠ a.column := by
  obtain ⟨before, after, heq, hafter⟩ := h
  obtain rfl | ⟨after, c, rfl⟩ := List.eq_nil_or_concat after
  · exact .inl (List.append_inj_right' heq rfl |> List.singleton_inj.mp).symm
  · rw [List.concat_eq_append, ← List.cons_append, ← List.append_assoc] at heq
    obtain ⟨rfl, hlast⟩ := List.append_inj' heq rfl
    obtain rfl := List.singleton_inj.mp hlast
    exact .inr ⟨⟨before, after, rfl, fun d hd => hafter d (by simp [hd])⟩, (hafter a (by simp)).symm⟩

namespace Row

/-- The cell of a column is there, and is neither null nor empty. -/
def Holds (row : Row) (column : String) (raw : Bytes) : Prop :=
  row.lookup column = some (some raw) ∧ raw ≠ []

/-- What an attribute asks for can be read, if the row holds it. -/
def Reads (row : Row) (a : Attribute) : Prop :=
  ∀ raw, row.Holds a.column raw → ∃ v, readCell a.column a.kind raw = .ok v

variable {row : Row} {column : String} {raw : Bytes} {a : Attribute} {attributes : List Attribute}
  {values values' : Columns Value} {e : Failure}

theorem Holds.unique {raw' : Bytes} (h : row.Holds column raw) (h' : row.Holds column raw') : raw = raw' :=
  Option.some_inj.mp (Option.some_inj.mp (h.1.symm.trans h'.1))

theorem cell?_eq_some_iff : row.cell? column = some raw ↔ row.Holds column raw := by
  unfold cell? Holds
  split
  next b bs hlookup =>
    rw [hlookup]
    simp only [Option.some.injEq]
    constructor
    · rintro rfl
      exact ⟨rfl, List.cons_ne_nil b bs⟩
    · exact And.left
  next hother =>
    refine iff_of_false nofun ?_
    rintro ⟨hlookup, hne⟩
    obtain ⟨b, bs, rfl⟩ := List.exists_cons_of_ne_nil hne
    exact hother b bs hlookup

/-! ### One attribute -/

theorem decodeNext_of_holds (h : row.Holds a.column raw) (values : Columns Value) :
    row.decodeNext values a = (readCell a.column a.kind raw).map fun v => values.insert a.column v := by
  rw [decodeNext, cell?_eq_some_iff.mpr h]

theorem decodeNext_of_not_holds (h : ∀ raw, ¬row.Holds a.column raw) (values : Columns Value) :
    row.decodeNext values a = .ok values := by
  have hnone : row.cell? a.column = none :=
    Option.eq_none_iff_forall_ne_some.mpr fun raw hraw => h raw (cell?_eq_some_iff.mp hraw)
  rw [decodeNext, hnone]

theorem exists_decodeNext_iff (values : Columns Value) (a : Attribute) :
    (∃ values', row.decodeNext values a = .ok values') ↔ row.Reads a := by
  by_cases hholds : ∃ raw, row.Holds a.column raw
  · obtain ⟨raw, hraw⟩ := hholds
    rw [decodeNext_of_holds hraw, exists_map_eq_ok_iff]
    constructor
    · intro hread raw' hraw'
      rwa [← hraw.unique hraw']
    · exact fun hreads => hreads raw hraw
  · rw [decodeNext_of_not_holds (not_exists.mp hholds)]
    exact iff_of_true ⟨values, rfl⟩ fun raw hraw => absurd ⟨raw, hraw⟩ hholds

theorem decodeNext_eq_error_iff : row.decodeNext values a = .error e ↔
    ∃ raw, row.Holds a.column raw ∧ readCell a.column a.kind raw = .error e := by
  by_cases hholds : ∃ raw, row.Holds a.column raw
  · obtain ⟨raw, hraw⟩ := hholds
    rw [decodeNext_of_holds hraw, map_eq_error_iff]
    constructor
    · exact fun hread => ⟨raw, hraw, hread⟩
    · rintro ⟨raw', hraw', hread⟩
      rwa [hraw.unique hraw']
  · rw [decodeNext_of_not_holds (not_exists.mp hholds)]
    exact iff_of_false nofun fun ⟨raw, hraw, _⟩ => hholds ⟨raw, hraw⟩

/-- Whatever else a row holds, an attribute is decoded from the cell of its column. -/
theorem decodeNext_congr {other : Row} (h : other.lookup a.column = row.lookup a.column) (values : Columns Value) :
    other.decodeNext values a = row.decodeNext values a := by
  rw [decodeNext, decodeNext, cell?, cell?, h]

/-! ### One row -/

/-- What a row has been decoded to, attribute by attribute. -/
structure Decoded (row : Row) (attributes : List Attribute) (values : Columns Value) : Prop where
  sorted : values.IsSorted
  /-- A name is there when an attribute asks for it and the row holds it. -/
  names : ∀ name, (∃ v, values.lookup name = some v) ↔ ∃ a ∈ attributes, a.column = name ∧ ∃ raw, row.Holds name raw
  /-- Under each name is what the last attribute for it makes of the cell. -/
  last : ∀ (a : Attribute) raw, a.IsLastIn attributes → row.Holds a.column raw →
    ∃ v, readCell a.column a.kind raw = .ok v ∧ values.lookup a.column = some v

theorem Decoded.nil (row : Row) : row.Decoded [] [] where
  sorted := List.Pairwise.nil
  names := by simp
  last := by
    rintro a raw ⟨before, after, heq, _⟩
    simp at heq

/-- An attribute that the row holds puts its own value under its name. -/
theorem Decoded.put (h : row.Decoded attributes values) (hraw : row.Holds a.column raw) {v : Value}
    (hv : readCell a.column a.kind raw = .ok v) : row.Decoded (attributes ++ [a]) (values.insert a.column v) where
  sorted := h.sorted.insert a.column v
  names name := by
    by_cases hname : name = a.column
    · subst hname
      exact iff_of_true ⟨v, Columns.lookup_insert_self ..⟩ ⟨a, by simp, rfl, raw, hraw⟩
    · rw [Columns.lookup_insert_of_ne hname, h.names name]
      simp [or_and_right, exists_or, Ne.symm hname]
  last b raw' hb hraw' := by
    by_cases hname : b.column = a.column
    · obtain rfl := hb.of_concat.resolve_right fun hlater => hlater.2 hname
      obtain rfl := hraw.unique hraw'
      exact ⟨v, hv, Columns.lookup_insert_self ..⟩
    · obtain rfl | ⟨hb, _⟩ := hb.of_concat
      · exact absurd rfl hname
      · rw [Columns.lookup_insert_of_ne hname]
        exact h.last b raw' hb hraw'

/-- An attribute that the row does not hold changes nothing. -/
theorem Decoded.pass (h : row.Decoded attributes values) (hnot : ¬∃ raw, row.Holds a.column raw) :
    row.Decoded (attributes ++ [a]) values where
  sorted := h.sorted
  names name := by
    rw [h.names name]
    constructor
    · rintro ⟨b, hb, hheld⟩
      exact ⟨b, List.mem_append_left _ hb, hheld⟩
    · rintro ⟨b, hb, rfl, hraw⟩
      obtain hb | hb := List.mem_append.mp hb
      · exact ⟨b, hb, rfl, hraw⟩
      · obtain rfl := List.mem_singleton.mp hb
        exact absurd hraw hnot
  last b raw hb hraw := by
    obtain rfl | ⟨hb, _⟩ := hb.of_concat
    · exact absurd ⟨raw, hraw⟩ hnot
    · exact h.last b raw hb hraw

theorem Decoded.next (h : row.Decoded attributes values) (hnext : row.decodeNext values a = .ok values') :
    row.Decoded (attributes ++ [a]) values' := by
  by_cases hholds : ∃ raw, row.Holds a.column raw
  · obtain ⟨raw, hraw⟩ := hholds
    rw [decodeNext_of_holds hraw, map_eq_ok_iff] at hnext
    obtain ⟨v, hv, rfl⟩ := hnext
    exact h.put hraw hv
  · rw [decodeNext_of_not_holds (not_exists.mp hholds)] at hnext
    obtain rfl := Except.ok.inj hnext
    exact h.pass hholds

theorem decode_concat (row : Row) (attributes : List Attribute) (a : Attribute) :
    row.decode (attributes ++ [a]) = row.decode attributes >>= fun values => row.decodeNext values a := by
  rw [decode, List.foldlM_append]
  apply bind_congr
  intro values
  rw [List.foldlM_cons]
  exact bind_pure _

/-- What a row is decoded to, by induction on the attributes from the last one. -/
theorem decoded_of_decode (h : row.decode attributes = .ok values) : row.Decoded attributes values := by
  induction attributes using List.reverseRecOn generalizing values with
  | nil =>
      obtain rfl := Except.ok.inj h
      exact .nil row
  | append_singleton attributes a ih =>
      rw [decode_concat, bind_eq_ok_iff] at h
      obtain ⟨before, hbefore, hnext⟩ := h
      exact (ih hbefore).next hnext

theorem exists_decode_iff : (∃ values, row.decode attributes = .ok values) ↔ ∀ a ∈ attributes, row.Reads a :=
  exists_foldlM_iff exists_decodeNext_iff []

theorem decode_eq_error_iff : row.decode attributes = .error e ↔
    ∃ before a after raw, attributes = before ++ a :: after ∧ (∀ b ∈ before, row.Reads b) ∧ row.Holds a.column raw ∧
      readCell a.column a.kind raw = .error e := by
  rw [decode, foldlM_eq_error_iff]
  constructor
  · rintro ⟨before, a, after, values, rfl, hbefore, ha⟩
    obtain ⟨raw, hraw, hread⟩ := decodeNext_eq_error_iff.mp ha
    exact ⟨before, a, after, raw, rfl, exists_decode_iff.mp ⟨values, hbefore⟩, hraw, hread⟩
  · rintro ⟨before, a, after, raw, rfl, hbefore, hraw, hread⟩
    obtain ⟨values, hvalues⟩ := exists_decode_iff.mpr hbefore
    exact ⟨before, a, after, values, rfl, hvalues, decodeNext_eq_error_iff.mpr ⟨raw, hraw, hread⟩⟩

theorem decode_congr {other : Row} (h : ∀ a ∈ attributes, other.lookup a.column = row.lookup a.column) :
    other.decode attributes = row.decode attributes :=
  foldlM_congr fun a ha values => decodeNext_congr (h a ha) values

/-- A row is decoded when every attribute whose column it holds can be read. The result has the names of these columns and
no others, each with what the last attribute for it makes of the cell. If an attribute cannot be read, the failure is that
of the first such attribute, also where a later one for the same column could be. Columns that no attribute names make no
difference. -/
theorem decode_last_of_each_column (row : Row) (attributes : List Attribute) :
    ((∃ values, row.decode attributes = .ok values) ↔
        ∀ a ∈ attributes, ∀ raw, row.Holds a.column raw → ∃ v, readCell a.column a.kind raw = .ok v) ∧
      (∀ values, row.decode attributes = .ok values → row.Decoded attributes values) ∧
      (∀ e, row.decode attributes = .error e ↔ ∃ before a after raw, attributes = before ++ a :: after ∧
        (∀ b ∈ before, row.Reads b) ∧ row.Holds a.column raw ∧ readCell a.column a.kind raw = .error e) ∧
      ∀ other : Row, (∀ a ∈ attributes, other.lookup a.column = row.lookup a.column) →
        other.decode attributes = row.decode attributes :=
  ⟨exists_decode_iff, fun _ => decoded_of_decode, fun _ => decode_eq_error_iff, fun _ => decode_congr⟩

/-- A column that is asked for twice, one that is null, one that is empty and one that nobody asks for; then a cell that only
the later of two attributes can read. -/
theorem decode_of_column_asked_twice :
    let row : Row := [("id", some [49]), ("name", none), ("note", some []), ("secret", some [255])]
    let attributes : List Attribute :=
      [⟨"id", .string, true⟩, ⟨"name", .string, false⟩, ⟨"note", .double, false⟩, ⟨"id", .boolean, false⟩]
    (∃ values, row.decode attributes = .ok values ∧ values.lookup "id" = some (.bool true) ∧
        values.lookup "name" = none ∧ values.lookup "note" = none) ∧
      Row.decode [("name", none), ("note", some []), ("id", some [49])] attributes = row.decode attributes ∧
      Row.decode [("id", some [120])] (attributes.reverse ++ attributes) = .error (.badCell "id" "x" .notBoolean) := by
  intro row attributes
  have hvalues : row.decode attributes = .ok [("id", .bool true)] := by rfl
  obtain ⟨_, hdecoded, _, hother⟩ := decode_last_of_each_column row attributes
  obtain ⟨_, _, herror, _⟩ := decode_last_of_each_column [("id", some [120])] (attributes.reverse ++ attributes)
  have hlast : Attribute.IsLastIn ⟨"id", .boolean, false⟩ attributes := ⟨attributes.take 3, [], rfl, by simp⟩
  obtain ⟨v, hv, hid⟩ := (hdecoded _ hvalues).last _ [49] hlast ⟨rfl, by decide⟩
  refine ⟨⟨_, hvalues, ?_, rfl, rfl⟩, hother _ (by decide), (herror _).mpr ?_⟩
  · rw [hid, ← Except.ok.inj hv]
  · exact ⟨[], ⟨"id", .boolean, false⟩, _, [120], rfl, by simp, ⟨rfl, by decide⟩, rfl⟩

end Row

end FilterQuery
