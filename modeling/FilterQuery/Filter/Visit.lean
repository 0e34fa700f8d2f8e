import FilterQuery.Filter.Basic

/-!
Builders that keep a memory. What a builder makes of a test or of a group can depend on all that it was asked before, and change
what it remembers. A visit takes it through a filter as building does, part by part up to the first failure, and is recorded with
every test that the builder was asked about, the place of the test and the answer. -/

namespace FilterQuery

/-- A use of filters that keeps a memory. What fails is a test or a group without parts; putting the parts of a group together
does not. -/
structure Builder (σ α : Type) where
  /-- What it makes of a test. -/
  test : Test → σ → Except Failure α × σ
  /-- What it remembers before it goes to the parts of a group. -/
  enter : Connective → List Filter → σ → σ
  /-- What it makes of a group whose parts it has made something of. -/
  join : Connective → List Filter → List α → σ → α × σ

/-- A question about a test: where the test stands in the filter, and the answer. -/
structure Call (α : Type) where
  place : Place
  test : Test
  answer : Except Failure α

def Call.inPart {α : Type} (k : Connective) (index : Nat) (c : Call α) : Call α :=
  { c with place := (k, index) :: c.place }

/-- What comes of a visit: the calls in the order in which they were made, what was built, and what is remembered. -/
structure Visit (σ α β : Type) where
  calls : List (Call α)
  built : Except Failure β
  memory : σ

namespace Builder

variable {σ α : Type}

mutual

/-- Visits a filter. A group without parts fails before the builder hears of it. -/
def visit (b : Builder σ α) : Filter → σ → Visit σ α α
  | .test t, s => ⟨[⟨[], t, (b.test t s).1⟩], (b.test t s).1, (b.test t s).2⟩
  | .group k [], s => ⟨[], .error (.invalidShape (.emptyGroup k)), s⟩
  | .group k (f :: fs), s =>
    let parts := b.visitParts k 0 (f :: fs) (b.enter k (f :: fs) s)
    let join := fun as => b.join k (f :: fs) as parts.memory
    ⟨parts.calls, parts.built.map fun as => (join as).1, match parts.built with
      | .error _ => parts.memory
      | .ok as => (join as).2⟩

/-- Visits the parts of a group, the first of which has the given index, up to the first that fails. -/
def visitParts (b : Builder σ α) (k : Connective) : Nat → List Filter → σ → Visit σ α (List α)
  | _, [], s => ⟨[], .ok [], s⟩
  | index, f :: fs, s =>
    let first := b.visit f s
    let calls := first.calls.map (Call.inPart k index)
    match first.built with
    | .error e => ⟨calls, .error (.inPart k.word index e), first.memory⟩
    | .ok a =>
      let rest := b.visitParts k (index + 1) fs first.memory
      ⟨calls ++ rest.calls, rest.built.map (a :: ·), rest.memory⟩

end

/-- The builder without a memory that follows rules for tests and for groups. -/
def ofRules (test : Test → Except Failure α) (join : Connective → List α → α) : Builder Unit α where
  test t s := (test t, s)
  enter _ _ s := s
  join k _ as s := (join k as, s)

end Builder

end FilterQuery
