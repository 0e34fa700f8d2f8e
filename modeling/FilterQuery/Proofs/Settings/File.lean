import FilterQuery.Proofs.Failure.Steps
import FilterQuery.Proofs.Json.Reader
import FilterQuery.Proofs.Json.Written
import FilterQuery.Proofs.Record.Columns
import FilterQuery.Settings.File

/-!
Members that a settings file does not know. One inside a section is skipped, and one beside the sections is read and only its name
is kept, so what has been read of the sections is the same with it and without it. Reading goes on from there in the same way,
and comes to the same limits or to the same fault. -/

namespace FilterQuery

/-- A list with more in it: extra things stand anywhere between those of the first list, which come in their order, each as it was
or as `same` lets it be. -/
inductive Padded {β : Type} (extra : β → Prop) (same : β → β → Prop) : List β → List β → Prop
  | nil : Padded extra same [] []
  | keep {x y : β} {xs ys : List β} (h : same x y) (hs : Padded extra same xs ys) : Padded extra same (x :: xs) (y :: ys)
  | extra {y : β} {xs ys : List β} (h : extra y) (hs : Padded extra same xs ys) : Padded extra same xs (y :: ys)

/-- Where extra things change nothing that is looked at, and the others do the same to what is looked at, a run along the longer
list ends as one along the shorter. -/
theorem Padded.foldlM_map_eq {ε σ τ β : Type} {extra : β → Prop} {same : β → β → Prop} {xs ys : List β}
    (h : Padded extra same xs ys) {step : σ → β → Except ε σ} {look : σ → τ}
    (hextra : ∀ s y, extra y → (step s y).map look = .ok (look s))
    (hsame : ∀ s t x y, same x y → look s = look t → (step s x).map look = (step t y).map look) {s t : σ}
    (hlook : look s = look t) : (xs.foldlM step s).map look = (ys.foldlM step t).map look := by
  induction h generalizing s t with
  | nil => exact congrArg Except.ok hlook
  | @keep x y xs ys hxy _ ih =>
      rw [List.foldlM_cons, List.foldlM_cons]
      have hstep := hsame s t x y hxy hlook
      cases hx : step s x with
      | error e =>
          rw [hx] at hstep
          rw [map_eq_error_iff.mp hstep.symm]
          rfl
      | ok s' =>
          rw [hx] at hstep
          obtain ⟨t', ht, hlook'⟩ := map_eq_ok_iff.mp hstep.symm
          rw [ht]
          exact ih hlook'.symm
  | @extra y xs ys hy _ ih =>
      obtain ⟨t', ht, hlook'⟩ := map_eq_ok_iff.mp (hextra t y hy)
      rw [List.foldlM_cons, ht]
      exact ih (hlook.trans hlook'.symm)

namespace SettingsFile

open Json (Doc)

inductive Section
  | filter
  | pagination
deriving DecidableEq

namespace Section

def name : Section → String
  | filter => "filter"
  | pagination => "pagination"

def known : Section → List LimitMember
  | filter => filterMembers
  | pagination => paginationMembers

/-- What the section is called where something else was found. -/
def expected : Section → String
  | filter => "struct FilterFileConfig"
  | pagination => "struct PaginationFileConfig"

/-- A member that stands in a section under a name that is none of its own, with whatever is whole. -/
def IsExtra (s : Section) (m : Doc × Doc) : Prop :=
  ∃ name, m.1 = .string (some name) ∧ (∀ k ∈ s.known, k.name ≠ name) ∧ m.2.isWellFormed = true

end Section

/-- A member that stands beside the sections under another name, with whatever can be read with so many levels. -/
def IsExtra (levels : Nat) (m : Doc × Doc) : Prop :=
  ∃ name, m.1 = .string (some name) ∧ (∀ s : Section, name ≠ s.name) ∧ m.2.isReadable levels = true

/-- A member of a settings file with no more in it than extra members of a section. -/
inductive IsPadded : Doc × Doc → Doc × Doc → Prop
  | refl (m : Doc × Doc) : IsPadded m m
  | inSection (s : Section) {members members' : List (Doc × Doc)} (closed : Bool)
      (h : Padded s.IsExtra Eq members members') :
      IsPadded (.string (some s.name), .object members closed) (.string (some s.name), .object members' closed)

variable {levels : Nat} {d d' : FileDraft} {m m' : Doc × Doc} {members members' : List (Doc × Doc)} {closed atEnd : Bool}
  {s : Section} {name : String} {text text' : String}

/-! ### Sections in a draft -/

namespace FileDraft

/-- What has been read of a section: nothing yet, null, or its limits. -/
def get? (d : FileDraft) : Section → Option (Option Draft)
  | .filter => d.filter
  | .pagination => d.pagination

def put (d : FileDraft) (s : Section) (o : Option Draft) : FileDraft :=
  match s with
  | .filter => { d with filter := some o }
  | .pagination => { d with pagination := some o }

def file (d : FileDraft) : SettingsFile :=
  ofSections (d.filter.join.getD []) (d.pagination.join.getD []) d.extra

theorem get?_put_self (d : FileDraft) (s : Section) (o : Option Draft) : (d.put s o).get? s = some o := by
  cases s <;> rfl

theorem get?_put_of_ne {s' : Section} (d : FileDraft) (o : Option Draft) (h : s' ≠ s) : (d.put s o).get? s' = d.get? s' := by
  cases s <;> cases s' <;> first | rfl | exact absurd rfl h

theorem get?_put_congr (h : d.get? = d'.get?) (s : Section) (o : Option Draft) : (d.put s o).get? = (d'.put s o).get? := by
  funext s'
  by_cases hs : s' = s
  · rw [hs, get?_put_self, get?_put_self]
  · rw [get?_put_of_ne _ _ hs, get?_put_of_ne _ _ hs, h]

theorem put_comm {s' : Section} (d : FileDraft) (h : s' ≠ s) (o' o : Option Draft) :
    (d.put s o).put s' o' = (d.put s' o').put s o := by
  cases s <;> cases s' <;> first | rfl | exact absurd rfl h

theorem file_put_of_empty {o : Option Draft} (h : d.get? s = none) (ho : o.getD [] = []) : (d.put s o).file = d.file := by
  have hjoin : (some o).join.getD [] = [] := ho
  cases s with
  | filter =>
      have hfilter : d.filter = none := h
      rw [file, file, hfilter]
      exact congrArg (ofSections · _ _) hjoin
  | pagination =>
      have hpagination : d.pagination = none := h
      rw [file, file, hpagination]
      exact congrArg (ofSections _ · _) hjoin

/-- The limits of a file are those of its sections. -/
theorem limits_file_congr (h : d.get? = d'.get?) : d.file.limits = d'.file.limits := by
  have hfilter : d.filter = d'.filter := congrFun h .filter
  have hpagination : d.pagination = d'.pagination := congrFun h .pagination
  rw [file, file, hfilter, hpagination]
  rfl

end FileDraft

/-! ### Reading members -/

theorem readMember_of_section (d : FileDraft) (s : Section) (x : Doc) :
    readMember levels d (.string (some s.name), x) =
      if (d.get? s).isSome then .error (.duplicateMember s.name)
      else (x.readOption (readSection s.known s.expected levels)).map (d.put s) := by
  obtain ⟨filter, pagination, extra⟩ := d
  cases s with
  | filter => cases filter <;> rfl
  | pagination => cases pagination <;> rfl

theorem readMember_of_other (hname : m.1.name? = some name) (hother : ∀ s : Section, name ≠ s.name) :
    readMember levels d m =
      if m.2.isReadable levels then .ok { d with extra := noteName d.extra name } else .error .malformed := by
  rw [readMember, Doc.readMemberName_eq_ok_iff.mpr hname]
  have hfilter : name ≠ "filter" := hother .filter
  have hpagination : name ≠ "pagination" := hother .pagination
  simp only [bind, Except.bind, if_neg hfilter, if_neg hpagination]
  rfl

theorem readMember_of_no_name (hname : m.1.name? = none) : readMember levels d m = .error .malformed := by
  rw [readMember, Doc.readMemberName, hname]
  rfl

/-- A member is one of a section, one under another name, or one without a name. -/
theorem member_cases (m : Doc × Doc) : (∃ (s : Section) (x : Doc), m = (.string (some s.name), x)) ∨
    (∃ name, m.1.name? = some name ∧ ∀ s : Section, name ≠ s.name) ∨ m.1.name? = none := by
  obtain ⟨doc, x⟩ := m
  cases hname : doc.name? with
  | none => exact .inr (.inr rfl)
  | some name =>
      by_cases hs : ∃ s : Section, name = s.name
      · obtain ⟨s, rfl⟩ := hs
        exact .inl ⟨s, x, by rw [Doc.name?_eq_some_iff.mp hname]⟩
      · exact .inr (.inl ⟨name, rfl, not_exists.mp hs⟩)

/-- What a member does to the sections depends on nothing else that has been read. -/
theorem map_get?_readMember_congr (h : d.get? = d'.get?) (m : Doc × Doc) :
    (readMember levels d m).map FileDraft.get? = (readMember levels d' m).map FileDraft.get? := by
  obtain ⟨s, x, rfl⟩ | ⟨name, hname, hother⟩ | hname := member_cases m
  · rw [readMember_of_section, readMember_of_section, h]
    split
    · rfl
    · cases x.readOption (readSection s.known s.expected levels) with
      | error e => rfl
      | ok o => exact congrArg Except.ok (FileDraft.get?_put_congr h s o)
  · rw [readMember_of_other hname hother, readMember_of_other hname hother]
    split
    · exact congrArg Except.ok h
    · rfl
  · rw [readMember_of_no_name hname, readMember_of_no_name hname]

/-! ### Extra members -/

theorem readSectionMember_of_extra (h : s.IsExtra m) (d : Draft) : readSectionMember s.known d m = .ok d := by
  obtain ⟨name, hname, hunknown, hwhole⟩ := h
  have hfind : (s.known.find? fun k => k.name == name) = none := by
    rw [List.find?_eq_none]
    exact fun k hk => by simpa using hunknown k hk
  have hread : m.1.readMemberName = .ok name := by rw [hname]; rfl
  rw [readSectionMember, hread]
  simp only [bind, Except.bind, hfind, Doc.skip, hwhole]
  rfl

/-- A section reads the same with extra members in it. -/
theorem readSection_of_padded (h : Padded s.IsExtra Eq members members') :
    readSection s.known s.expected levels (.object members closed) =
      readSection s.known s.expected levels (.object members' closed) := by
  have hrun : (members.foldlM (readSectionMember s.known) []).map id =
      (members'.foldlM (readSectionMember s.known) []).map id := by
    refine h.foldlM_map_eq (fun d m hm => ?_) (fun d d' m m' hm hd => ?_) rfl
    · rw [readSectionMember_of_extra hm]
      rfl
    · obtain rfl : m = m' := hm
      obtain rfl : d = d' := hd
      rfl
  simp only [Except.map_id, id] at hrun
  rw [readSection, readSection, hrun]

theorem map_get?_readMember_of_extra (h : IsExtra levels m) (d : FileDraft) :
    (readMember levels d m).map FileDraft.get? = .ok d.get? := by
  obtain ⟨name, hname, hother, hreadable⟩ := h
  rw [readMember_of_other (by rw [hname]; rfl) hother, if_pos hreadable]
  rfl

theorem map_get?_readMember_of_padded (h : IsPadded m m') (hd : d.get? = d'.get?) :
    (readMember levels d m).map FileDraft.get? = (readMember levels d' m').map FileDraft.get? := by
  cases h with
  | refl => exact map_get?_readMember_congr hd m
  | inSection s closed h =>
      rw [map_get?_readMember_congr hd, readMember_of_section, readMember_of_section]
      have hsection (members : List (Doc × Doc)) :
          (Doc.object members closed).readOption (readSection s.known s.expected levels) =
            (readSection s.known s.expected levels (.object members closed)).map some := rfl
      rw [hsection, hsection, readSection_of_padded h]

/-! ### Reading files -/

theorem read_object (levels : Nat) (members : List (Doc × Doc)) (closed : Bool) :
    read (levels + 1) (.object members closed) =
      (members.foldlM (readMember levels) ⟨none, none, []⟩ >>= fun d => Doc.close closed >>= fun _ => .ok d.file) := rfl

/-- A file says the same about limits with extra members in it, or fails in the same way. -/
theorem map_limits_read_of_padded (h : Padded (IsExtra levels) IsPadded members members') :
    (read (levels + 1) (.object members closed)).map limits = (read (levels + 1) (.object members' closed)).map limits := by
  have hrun : (members.foldlM (readMember levels) ⟨none, none, []⟩).map FileDraft.get? =
      (members'.foldlM (readMember levels) ⟨none, none, []⟩).map FileDraft.get? :=
    h.foldlM_map_eq (fun d _ hm => map_get?_readMember_of_extra hm d)
      (fun _ _ _ _ hm hd => map_get?_readMember_of_padded hm hd) rfl
  rw [read_object, read_object]
  cases hd : members.foldlM (readMember levels) ⟨none, none, []⟩ with
  | error e =>
      rw [hd] at hrun
      rw [map_eq_error_iff.mp hrun.symm]
  | ok d =>
      rw [hd] at hrun
      obtain ⟨d', hd', hget⟩ := map_eq_ok_iff.mp hrun.symm
      rw [hd']
      cases closed with
      | false => rfl
      | true => exact congrArg Except.ok (FileDraft.limits_file_congr hget.symm)

/-! ### Names that are kept -/

/-- The name of a member that is no section. -/
def otherName? (m : Doc × Doc) : Option String :=
  m.1.name?.filter fun name => decide (name ≠ Section.filter.name ∧ name ≠ Section.pagination.name)

theorem otherName?_of_section (s : Section) (x : Doc) : otherName? (.string (some s.name), x) = none := by
  cases s <;> rfl

theorem otherName?_of_other (hname : m.1.name? = some name) (hother : ∀ s : Section, name ≠ s.name) :
    otherName? m = some name := by
  rw [otherName?, hname, Option.filter_some, if_pos (decide_eq_true ⟨hother .filter, hother .pagination⟩)]

theorem noteName_eraseDups (seen : List String) (name : String) :
    noteName seen.eraseDups name = (seen ++ [name]).eraseDups := by
  rw [noteName, List.eraseDups_append]
  by_cases hmem : name ∈ seen
  · simp [List.removeAll, hmem]
  · simp [List.removeAll, hmem, List.eraseDups_cons]

theorem extra_of_readMember {seen : List String} (h : readMember levels d m = .ok d') (hd : d.extra = seen.eraseDups) :
    d'.extra = (seen ++ (otherName? m).toList).eraseDups := by
  obtain ⟨s, x, rfl⟩ | ⟨name, hname, hother⟩ | hname := member_cases m
  · rw [readMember_of_section] at h
    split at h
    · cases h
    · obtain ⟨o, _, rfl⟩ := map_eq_ok_iff.mp h
      rw [otherName?_of_section, Option.toList_none, List.append_nil]
      cases s <;> exact hd
  · rw [readMember_of_other hname hother] at h
    split at h
    · obtain rfl := Except.ok.inj h
      rw [otherName?_of_other hname hother, Option.toList_some, ← noteName_eraseDups, ← hd]
    · cases h
  · rw [readMember_of_no_name hname] at h
    cases h

theorem extra_of_foldlM {seen : List String} (h : members.foldlM (readMember levels) d = .ok d')
    (hd : d.extra = seen.eraseDups) : d'.extra = (seen ++ members.flatMap fun m => (otherName? m).toList).eraseDups := by
  induction members generalizing d seen with
  | nil =>
      obtain rfl := Except.ok.inj h
      rw [List.flatMap_nil, List.append_nil, hd]
  | cons m members ih =>
      rw [List.foldlM_cons] at h
      obtain ⟨t, ht, hrest⟩ := bind_eq_ok_iff.mp h
      rw [List.flatMap_cons, ← List.append_assoc]
      exact ih hrest (extra_of_readMember ht hd)

/-- The names that a file is reported for are those of its members beside the sections, each once, where it first stands. -/
theorem extra_of_read {file : SettingsFile} (h : read (levels + 1) (.object members closed) = .ok file) :
    file.extra = (members.flatMap fun m => (otherName? m).toList).eraseDups := by
  rw [read_object] at h
  obtain ⟨d, hd, hclose⟩ := bind_eq_ok_iff.mp h
  obtain ⟨_, _, hfile⟩ := bind_eq_ok_iff.mp hclose
  obtain rfl := Except.ok.inj hfile
  exact extra_of_foldlM hd (show [] = List.eraseDups [] from rfl)

/-- The order of names has the same names, each once. -/
theorem unknown_sorted (file : SettingsFile) : file.unknown.Pairwise fun a b => Text.byteOrder a b = .lt :=
  List.pairwise_map.mpr (Columns.isSorted_ofList _)

theorem mem_unknown_iff {file : SettingsFile} {name : String} : name ∈ file.unknown ↔ name ∈ file.extra := by
  rw [unknown, Columns.mem_names_ofList_iff, List.map_map]
  simp

/-! ### Sections without members -/

theorem readOption_of_empty {x : Doc} (hx : x = .null ∨ x = .object [] true) (s : Section) (levels : Nat) :
    ∃ o : Option Draft, x.readOption (readSection s.known s.expected (levels + 1)) = .ok o ∧ o.getD [] = [] := by
  obtain rfl | rfl := hx
  · exact ⟨none, rfl, rfl⟩
  · exact ⟨some [], rfl, rfl⟩

theorem get?_of_readMember (hname : m.1.name? ≠ some s.name) (h : readMember levels d m = .ok d') : d'.get? s = d.get? s := by
  obtain ⟨s', x, rfl⟩ | ⟨name, hm, hother⟩ | hm := member_cases m
  · rw [readMember_of_section] at h
    split at h
    · cases h
    · obtain ⟨o, _, rfl⟩ := map_eq_ok_iff.mp h
      refine FileDraft.get?_put_of_ne d o ?_
      rintro rfl
      exact hname rfl
  · rw [readMember_of_other hm hother] at h
    split at h
    · obtain rfl := Except.ok.inj h
      cases s <;> rfl
    · cases h
  · rw [readMember_of_no_name hm] at h
    cases h

theorem readMember_put (hname : m.1.name? ≠ some s.name) (d : FileDraft) (o : Option Draft) :
    readMember levels (d.put s o) m = (readMember levels d m).map fun t => t.put s o := by
  obtain ⟨s', x, rfl⟩ | ⟨name, hm, hother⟩ | hm := member_cases m
  · have hne : s' ≠ s := by
      rintro rfl
      exact hname rfl
    rw [readMember_of_section, readMember_of_section, FileDraft.get?_put_of_ne d o hne]
    split
    · rfl
    · cases x.readOption (readSection s'.known s'.expected levels) with
      | error e => rfl
      | ok o' => exact congrArg Except.ok (FileDraft.put_comm d hne o' o)
  · rw [readMember_of_other hm hother, readMember_of_other hm hother]
    split
    · cases s <;> rfl
    · rfl
  · rw [readMember_of_no_name hm, readMember_of_no_name hm]
    rfl

theorem get?_of_foldlM (hnames : ∀ m ∈ members, m.1.name? ≠ some s.name)
    (h : members.foldlM (readMember levels) d = .ok d') : d'.get? s = d.get? s := by
  induction members generalizing d with
  | nil =>
      obtain rfl := Except.ok.inj h
      rfl
  | cons m members ih =>
      obtain ⟨hm, hmembers⟩ := List.forall_mem_cons.mp hnames
      rw [List.foldlM_cons] at h
      obtain ⟨t, ht, hrest⟩ := bind_eq_ok_iff.mp h
      exact (ih hmembers hrest).trans (get?_of_readMember hm ht)

/-- Members that are none of a section do not look at it. -/
theorem foldlM_put (hnames : ∀ m ∈ members, m.1.name? ≠ some s.name) (d : FileDraft) (o : Option Draft) :
    members.foldlM (readMember levels) (d.put s o) = (members.foldlM (readMember levels) d).map fun t => t.put s o := by
  induction members generalizing d with
  | nil => rfl
  | cons m members ih =>
      obtain ⟨hm, hmembers⟩ := List.forall_mem_cons.mp hnames
      rw [List.foldlM_cons, List.foldlM_cons, readMember_put hm]
      cases readMember levels d m with
      | error e => rfl
      | ok t => exact ih hmembers t

/-- A section without members says what a section says that is missing. -/
theorem read_of_empty_section {x : Doc} (hx : x = .null ∨ x = .object [] true) {before after : List (Doc × Doc)}
    (hnames : ∀ m ∈ before ++ after, m.1.name? ≠ some s.name) :
    read (levels + 2) (.object (before ++ (.string (some s.name), x) :: after) closed) =
      read (levels + 2) (.object (before ++ after) closed) := by
  obtain ⟨hbefore, hafter⟩ := List.forall_mem_append.mp hnames
  rw [read_object, read_object, List.foldlM_append, List.foldlM_append]
  cases hd : before.foldlM (readMember (levels + 1)) ⟨none, none, []⟩ with
  | error e => rfl
  | ok d =>
      have hfree : d.get? s = none := (get?_of_foldlM hbefore hd).trans (by cases s <;> rfl)
      obtain ⟨o, ho, hempty⟩ := readOption_of_empty hx s levels
      have hsection : readMember (levels + 1) d (.string (some s.name), x) = .ok (d.put s o) := by
        rw [readMember_of_section, hfree, ho]
        rfl
      have hrun : ((.string (some s.name), x) :: after).foldlM (readMember (levels + 1)) d =
          (after.foldlM (readMember (levels + 1)) d).map fun t => t.put s o := by
        rw [List.foldlM_cons, hsection]
        exact foldlM_put hafter d o
      change (((.string (some s.name), x) :: after).foldlM (readMember (levels + 1)) d >>= _) =
        (after.foldlM (readMember (levels + 1)) d >>= _)
      rw [hrun]
      cases ht : after.foldlM (readMember (levels + 1)) d with
      | error e => rfl
      | ok t =>
          have hnone : t.get? s = none := (get?_of_foldlM hafter ht).trans hfree
          have hfile : (t.put s o).file = t.file := FileDraft.file_put_of_empty hnone hempty
          cases closed with
          | false => rfl
          | true => exact congrArg Except.ok hfile

/-! ### Texts -/

/-- Extra members of a settings file are inert: put anywhere, beside the sections or inside them, in whatever number and with
whatever values, they leave it to the rest of the text whether the file is read, with which fault it fails otherwise, and which
limits are in force under any settings. -/
theorem ofJson_of_extra_members (htext : Doc.ofText text.toList = (.object members closed, atEnd))
    (htext' : Doc.ofText text'.toList = (.object members' closed, atEnd))
    (h : Padded (IsExtra (Json.maxDepth - 1)) IsPadded members members') :
    (∀ fault, ofJson text = .error fault ↔ ofJson text' = .error fault) ∧
      (∀ file, ofJson text = .ok file → ∃ file', ofJson text' = .ok file' ∧ file'.limits = file.limits) ∧
      ∀ settings : LimitSettings, (ofJson text).map (fun file => settings.atop file.limits) =
        (ofJson text').map fun file => settings.atop file.limits := by
  have hread (text : String) (members : List (Doc × Doc)) (htext : Doc.ofText text.toList = (.object members closed, atEnd)) :
      ofJson text = (read Json.maxDepth (.object members closed) >>= fun file => Doc.close atEnd >>= fun _ => .ok file) := by
    rw [ofJson, Json.read, htext]
    rfl
  have hlimits : (ofJson text).map limits = (ofJson text').map limits := by
    have hfiles : (read Json.maxDepth (.object members closed)).map limits =
        (read Json.maxDepth (.object members' closed)).map limits := map_limits_read_of_padded h
    rw [hread text members htext, hread text' members' htext']
    cases hfile : read Json.maxDepth (.object members closed) with
    | error fault =>
        have hfault : read Json.maxDepth (.object members' closed) = .error fault := by
          rw [hfile] at hfiles
          exact map_eq_error_iff.mp hfiles.symm
        rw [hfault]
    | ok file =>
        obtain ⟨file', hfile', hsame⟩ : ∃ file', read Json.maxDepth (.object members' closed) = .ok file' ∧
            file'.limits = file.limits := by
          rw [hfile] at hfiles
          exact map_eq_ok_iff.mp hfiles.symm
        rw [hfile']
        cases atEnd with
        | false => rfl
        | true => exact congrArg Except.ok hsame.symm
  refine ⟨fun fault => ?_, fun file hfile => ?_, fun settings => ?_⟩
  · rw [← map_eq_error_iff (f := limits), hlimits, map_eq_error_iff]
  · rw [hfile, eq_comm] at hlimits
    exact map_eq_ok_iff.mp hlimits
  · have hresolve (r : Except Json.Fault SettingsFile) :
        r.map (fun file => settings.atop file.limits) = (r.map limits).map settings.atop := by
      cases r <;> rfl
    rw [hresolve, hresolve, hlimits]

/-- A width that is set, with members beside its section, two of them under one name, and members inside it. -/
theorem ofJson_of_notes_around_width :
    let width : String × Json.Tree := ("cast_width", .number ['4', '0'])
    let text := String.ofList (Json.Tree.object [("pagination", .object [width])]).compact
    let text' := String.ofList (Json.Tree.object [("note", .array [.string "a"]),
      ("pagination", .object [("width", .object []), width, ("max_depth", .bool true)]), ("note", .bool false)]).compact
    (∃ file, ofJson text = .ok file ∧ file.limits = ⟨none, none, some 40, none, none⟩) ∧
      ∃ file', ofJson text' = .ok file' ∧ file'.limits = ⟨none, none, some 40, none, none⟩ := by
  intro width text text'
  have hwidth : width.2.HasNumbers := .number (Json.spells_toDigits 40)
  have htext := Json.Tree.ofText_compact (t := .object [("pagination", .object [width])])
    (.object (by simpa using .object (by simpa using hwidth)))
  have hsection : (Json.Tree.object [("width", .object []), width, ("max_depth", .bool true)]).HasNumbers :=
    .object (by simpa using ⟨.object nofun, hwidth, .bool true⟩)
  have htext' := Json.Tree.ofText_compact (t := .object [("note", .array [.string "a"]),
      ("pagination", .object [("width", .object []), width, ("max_depth", .bool true)]), ("note", .bool false)])
    (.object (by simpa using ⟨.array (by simpa using .string "a"), hsection, .bool false⟩))
  have hnote {x : Doc} (hx : x.isReadable 126 = true) : IsExtra 126 (.string (some "note"), x) :=
    ⟨"note", rfl, fun s => by cases s <;> decide, hx⟩
  have hunknown {name : String} {x : Doc} (hname : ∀ k ∈ Section.pagination.known, k.name ≠ name) (hx : x.isWellFormed = true) :
      Section.pagination.IsExtra (.string (some name), x) :=
    ⟨name, rfl, hname, hx⟩
  obtain ⟨_, hok, _⟩ := ofJson_of_extra_members htext htext'
    (.extra (hnote rfl) (.keep (.inSection .pagination true
      (.extra (hunknown (by decide) rfl) (.keep rfl (.extra (hunknown (by decide) rfl) .nil)))) (.extra (hnote rfl) .nil)))
  have hfile : ofJson text = .ok ⟨⟨none, none, some 40, none, none⟩, []⟩ := by
    rw [ofJson, Json.read_of_ofText htext]
    rfl
  obtain ⟨file', hfile', hlimits⟩ := hok _ hfile
  exact ⟨⟨_, hfile, rfl⟩, file', hfile', hlimits⟩

end SettingsFile

end FilterQuery
