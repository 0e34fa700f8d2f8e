import FilterQuery.Proofs.Json.Ends
import FilterQuery.Proofs.Json.Number
import FilterQuery.Value.Json

/-!
Values of JSON are finite. There is no numeral for NaN or an infinity, and a numeral beyond the range is refused, so that no other
doubles reach a filter. -/

namespace FilterQuery.Value

/-- Every double in the value is finite, at any depth. -/
inductive IsFinite : Value → Prop
  | bool (b : Bool) : IsFinite (.bool b)
  | int (n : Int64) : IsFinite (.int n)
  | float {x : Double} (hx : x.isFinite = true) : IsFinite (.float x)
  | str (s : String) : IsFinite (.str s)
  | list {items : List Value} (h : ∀ v ∈ items, IsFinite v) : IsFinite (.list items)

variable {v : Value}

theorem isFinite_ofInteger {n : Int} (h : n.natAbs < 2 ^ 64) : (ofInteger n).IsFinite := by
  unfold ofInteger
  split
  · exact .int _
  · exact .float (Double.isFinite_ofInt (by decide) h)

mutual

theorem isFinite_of_ofDoc? : ∀ {d : Json.Doc} {v : Value}, ofDoc? d = some v → v.IsFinite
  | .bool b, v, h => by
      obtain rfl := Option.some.inj h
      exact .bool b
  | .number n, v, h => by
      rw [ofDoc?] at h
      split at h
      · next i hi =>
          obtain rfl := Option.some.inj h
          exact isFinite_ofInteger (Json.Number.natAbs_lt_of_ofNumeral? hi)
      · next x hx =>
          obtain rfl := Option.some.inj h
          exact .float (Json.Number.isFinite_of_ofNumeral? hx)
      · cases h
  | .string s, v, h => by
      obtain ⟨s, _, rfl⟩ := Option.map_eq_some_iff.mp h
      exact .str s
  | .array items closed, v, h => by
      obtain ⟨vs, hvs, rfl⟩ := Option.map_eq_some_iff.mp h
      exact .list (isFinite_of_ofDocs? hvs)
  | .null, _, h | .object .., _, h | .broken, _, h => by
      cases h

theorem isFinite_of_ofDocs? : ∀ {ds : List Json.Doc} {vs : List Value}, ofDocs? ds = some vs → ∀ v ∈ vs, v.IsFinite
  | [], vs, h => by
      obtain rfl := Option.some.inj h
      exact nofun
  | d :: ds, vs, h => by
      rw [ofDocs?] at h
      split at h
      · next v vs hv hvs =>
          obtain rfl := Option.some.inj h
          exact List.forall_mem_cons.mpr ⟨isFinite_of_ofDoc? hv, isFinite_of_ofDocs? hvs⟩
      · cases h

end

/-- A JSON text is never read as NaN or an infinity, nor as a list that holds one. -/
theorem isFinite_of_ofJson {text : String} (h : ofJson text = .ok v) : v.IsFinite := by
  obtain ⟨hread, _⟩ := Json.read_eq_ok_iff.mp h
  unfold read at hread
  split_ifs at hread
  split at hread
  · next v' hv =>
      obtain rfl := Except.ok.inj hread
      exact isFinite_of_ofDoc? hv
  · cases hread

end FilterQuery.Value
