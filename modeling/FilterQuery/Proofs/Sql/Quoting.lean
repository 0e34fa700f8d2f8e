import FilterQuery.Sql.Text

/-!
Names in backticks, of whatever characters. What closes a quoted name is the first backtick that no other one follows, and
quoting leaves no such backtick inside a name, since it writes each of them twice: a reader comes out of the doubled characters
as it went in, with the name read, whatever stands behind them. So reading undoes quoting where the text behind the name does not
go on with a backtick, and it reads nothing but what quoting writes. -/

namespace FilterQuery.Sql

variable {a b : String} {c : Char} {cs n rest s t u v : Text}

/-! ### One step of the reader -/

theorem readQuotedRest_double (s : Text) :
    readQuotedRest ('\x60' :: '\x60' :: s) = (readQuotedRest s).map fun r => ('\x60' :: r.1, r.2) := rfl

theorem readQuotedRest_of_ne (hc : c ≠ '\x60') (s : Text) :
    readQuotedRest (c :: s) = (readQuotedRest s).map fun r => (c :: r.1, r.2) := by
  rw [readQuotedRest.eq_4 c s (fun h _ => hc h) (fun _ h _ => hc h), if_neg hc]

theorem readQuotedRest_close (ht : t.head? ≠ some '\x60') : readQuotedRest ('\x60' :: t) = some ([], t) := by
  cases t with
  | nil => rfl
  | cons d t =>
      have hd : d ≠ '\x60' := by simpa using ht
      rw [readQuotedRest.eq_4 '\x60' (d :: t) (fun _ => nofun) (fun _ _ h => hd (List.cons.inj h).1), if_pos rfl]

/-! ### What was quoted is read -/

/-- The characters of a name are read as the name, whatever follows them. -/
theorem readQuotedRest_flatMap_append (cs s : Text) :
    readQuotedRest (cs.flatMap quoteChar ++ s) = (readQuotedRest s).map fun r => (cs ++ r.1, r.2) := by
  induction cs with
  | nil => simp
  | cons c cs ih =>
      rw [List.flatMap_cons, List.append_assoc]
      by_cases hc : c = '\x60'
      · subst hc
        show readQuotedRest ('\x60' :: '\x60' :: (cs.flatMap quoteChar ++ s)) = _
        rw [readQuotedRest_double, ih, Option.map_map]
        rfl
      · rw [quoteChar, if_neg hc, List.singleton_append, readQuotedRest_of_ne hc, ih, Option.map_map]
        rfl

/-- A name is read up to its closing backtick, and what follows that is left, which must not begin with a backtick. -/
theorem readQuotedRest_append (cs t : Text) (ht : t.head? ≠ some '\x60') :
    readQuotedRest (cs.flatMap quoteChar ++ '\x60' :: t) = some (cs, t) := by
  rw [readQuotedRest_flatMap_append, readQuotedRest_close ht, Option.map_some, List.append_nil]

theorem readQuoted_quote_append (name : String) (ht : t.head? ≠ some '\x60') :
    readQuoted (quote name ++ t) = some (name.toList, t) := by
  rw [quote, List.append_assoc, List.cons_append]
  exact readQuotedRest_append name.toList t ht

/-- A quoted name and what follows it can be told apart. -/
theorem quote_append_inj (hu : u.head? ≠ some '\x60') (hv : v.head? ≠ some '\x60') (h : quote a ++ u = quote b ++ v) :
    a = b ∧ u = v := by
  have hread := congrArg readQuoted h
  rw [readQuoted_quote_append a hu, readQuoted_quote_append b hv, Option.some.injEq, Prod.mk.injEq] at hread
  exact ⟨String.toList_inj.mp hread.1, hread.2⟩

/-! ### What is read was quoted -/

theorem readQuotedRest_sound (h : readQuotedRest cs = some (n, rest)) : cs = n.flatMap quoteChar ++ '\x60' :: rest := by
  fun_induction readQuotedRest cs generalizing n with
  | case1 => cases h
  | case2 =>
      obtain ⟨rfl, rfl⟩ := Prod.mk.inj (Option.some.inj h)
      rfl
  | case3 cs ih =>
      obtain ⟨⟨m, t⟩, hread, heq⟩ := Option.map_eq_some_iff.mp h
      obtain ⟨rfl, rfl⟩ := Prod.mk.inj heq
      rw [ih hread]
      rfl
  | case4 =>
      obtain ⟨rfl, rfl⟩ := Prod.mk.inj (Option.some.inj h)
      rfl
  | case5 c cs _ _ hc ih =>
      obtain ⟨⟨m, t⟩, hread, heq⟩ := Option.map_eq_some_iff.mp h
      obtain ⟨rfl, rfl⟩ := Prod.mk.inj heq
      rw [ih hread, List.flatMap_cons, quoteChar, if_neg hc]
      rfl

/-- A name is not closed by a backtick that another one follows: the two of them would be read as one more of the name. -/
theorem head?_ne_of_readQuotedRest (h : readQuotedRest cs = some (n, t)) : t.head? ≠ some '\x60' := by
  intro hhead
  obtain ⟨s, rfl⟩ := List.head?_eq_some_iff.mp hhead
  rw [readQuotedRest_sound h, readQuotedRest_flatMap_append, readQuotedRest_double, Option.map_map] at h
  obtain ⟨r, _, heq⟩ := Option.map_eq_some_iff.mp h
  have hname : n ++ '\x60' :: r.1 = n := congrArg Prod.fst heq
  cases List.append_right_eq_self.mp hname

theorem readQuoted_eq_some_iff :
    readQuoted s = some (n, t) ↔ s = quote (String.ofList n) ++ t ∧ t.head? ≠ some '\x60' := by
  constructor
  · intro h
    unfold readQuoted at h
    split at h
    · refine ⟨?_, head?_ne_of_readQuotedRest h⟩
      rw [readQuotedRest_sound h, quote, String.toList_ofList, List.append_assoc]
      rfl
    · cases h
  · rintro ⟨rfl, ht⟩
    rw [readQuoted_quote_append _ ht, String.toList_ofList]

/-- Reading undoes quoting, whatever characters a name has: what is read in front of a text that does not begin with a backtick is
the name, that text is left, and nothing else is read. So no two names are quoted alike, and where a text begins with two quoted
names, the one that is not read has a backtick behind it, so that it is not closed there. -/
theorem readQuoted_undoes_quote :
    (∀ name t, t.head? ≠ some '\x60' → readQuoted (quote name ++ t) = some (name.toList, t)) ∧
    (∀ s n t, readQuoted s = some (n, t) → s = quote (String.ofList n) ++ t ∧ t.head? ≠ some '\x60') ∧
    Function.Injective quote ∧
    ∀ name other t u, t.head? ≠ some '\x60' → quote name ++ t = quote other ++ u →
      other = name ∧ u = t ∨ u.head? = some '\x60' := by
  refine ⟨fun name _ ht => readQuoted_quote_append name ht, fun _ _ _ h => readQuoted_eq_some_iff.mp h, ?_, ?_⟩
  · intro a b h
    apply And.left
    apply quote_append_inj (u := []) (v := []) nofun nofun
    rw [h]
  · intro name other t u ht h
    by_cases hu : u.head? = some '\x60'
    · exact .inr hu
    · obtain ⟨rfl, rfl⟩ := quote_append_inj ht hu h
      exact .inl ⟨rfl, rfl⟩

/-- A name off the allow-list that begins and ends with backticks, before a text that has some too. What it is written as begins
like the empty name, but that is not what is read; and three backticks alone close nothing. -/
theorem readQuoted_of_name_full_of_backticks :
    isIdentifier "`a``" = false ∧ quote "`a``" ++ ".`b`".toList = "```a`````.`b`".toList ∧
      readQuoted "```a`````.`b`".toList = some ("`a``".toList, ".`b`".toList) ∧
      (∃ u, quote "`a``" ++ ".`b`".toList = quote "" ++ u ∧ u.head? = some '\x60') ∧ readQuoted "```".toList = none := by
  obtain ⟨hread, -, -, hclosed⟩ := readQuoted_undoes_quote
  have hquote : quote "`a``" ++ ".`b`".toList = "```a`````.`b`".toList := by rfl
  have hempty : quote "`a``" ++ ".`b`".toList = quote "" ++ "`a`````.`b`".toList := by rfl
  refine ⟨by rfl, hquote, ?_, ⟨_, hempty, ?_⟩, by rfl⟩
  · rw [← hquote]
    exact hread "`a``" ".`b`".toList (by decide)
  · rcases hclosed "`a``" "" ".`b`".toList _ (by decide) hempty with ⟨hname, -⟩ | hhead
    · exact absurd hname (by decide)
    · exact hhead

end FilterQuery.Sql
