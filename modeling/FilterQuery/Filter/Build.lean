import FilterQuery.Filter.Basic

/-!
Building something from a filter: one rule for its tests and one for its groups. The parts of a group are built from left to
right, and the first failure ends the work and is wrapped with the place where it arose. Every use of a filter is an
instance, so all of them check the same things in the same order. -/

namespace FilterQuery.Filter

variable {α : Type}

mutual

/-- What the rules make of a filter. A group without parts fails before anything is built. -/
def build (test : Test → Except Failure α) (join : Connective → List α → α) : Filter → Except Failure α
  | .test t => test t
  | .group k [] => .error (.invalidShape (.emptyGroup k))
  | .group k (f :: fs) => (buildParts test join k 0 (f :: fs)).map (join k)

/-- What the rules make of the parts of a group, the first of which has the given index. -/
def buildParts (test : Test → Except Failure α) (join : Connective → List α → α) (k : Connective) :
    Nat → List Filter → Except Failure (List α)
  | _, [] => .ok []
  | index, f :: fs =>
    match build test join f with
    | .error e => .error (.inPart k.word index e)
    | .ok a => (buildParts test join k (index + 1) fs).map (a :: ·)

end

mutual

/-- What the rules make of a filter, together with the tests that were looked at, in order. -/
def trace (test : Test → Except Failure α) (join : Connective → List α → α) :
    Filter → List Test × Except Failure α
  | .test t => ([t], test t)
  | .group k [] => ([], .error (.invalidShape (.emptyGroup k)))
  | .group k (f :: fs) =>
    let (seen, built) := traceParts test join k 0 (f :: fs)
    (seen, built.map (join k))

/-- What the rules make of the parts of a group, together with the tests that were looked at. -/
def traceParts (test : Test → Except Failure α) (join : Connective → List α → α) (k : Connective) :
    Nat → List Filter → List Test × Except Failure (List α)
  | _, [] => ([], .ok [])
  | index, f :: fs =>
    match trace test join f with
    | (seen, .error e) => (seen, .error (.inPart k.word index e))
    | (seen, .ok a) =>
      let (more, built) := traceParts test join k (index + 1) fs
      (seen ++ more, built.map (a :: ·))

end

end FilterQuery.Filter
