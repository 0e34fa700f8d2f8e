/-!
The limits that the program keeps to. Each of the five may be set on the command line, in the environment or in a
settings file; what none of them sets has a default. Limits are judged only after the layers are joined, so a value that
is overridden does no harm. -/

namespace FilterQuery

structure Limits where
  /-- The greatest size of a filter's text, in bytes. -/
  maxFilterBytes : Nat
  /-- The greatest depth of a filter; its root is at depth one. -/
  maxFilterDepth : Nat
  /-- The width of the string that the unique id is cast to. -/
  castWidth : Nat
  /-- The page size of a request that names none. -/
  defaultPageSize : Nat
  /-- The greatest page size. -/
  maxPageSize : Nat
deriving DecidableEq

/-- One layer of settings: each limit is set or not. -/
structure LimitSettings where
  maxFilterBytes : Option Nat
  maxFilterDepth : Option Nat
  castWidth : Option Nat
  defaultPageSize : Option Nat
  maxPageSize : Option Nat
deriving DecidableEq

inductive LimitFault
  | noFilterBytes
  | noFilterDepth
  | castWidth
  | maxPageSize (size : Nat)
  | defaultPageSize (size max : Nat)
deriving DecidableEq

namespace Limits

/-- The bound of page sizes and of cursors that are numbers: the greatest unsigned 32-bit word. -/
def pageBound : Nat := 4294967295

def maxCastWidth : Nat := 255

def default : Limits where
  maxFilterBytes := 65536
  maxFilterDepth := 32
  castWidth := 50
  defaultPageSize := 100
  maxPageSize := pageBound

/-- The first thing that is wrong with the limits. -/
def fault? (l : Limits) : Option LimitFault :=
  if l.maxFilterBytes = 0 then some .noFilterBytes
  else if l.maxFilterDepth = 0 then some .noFilterDepth
  else if l.castWidth = 0 ∨ maxCastWidth < l.castWidth then some .castWidth
  else if pageBound < l.maxPageSize then some (.maxPageSize l.maxPageSize)
  else if l.maxPageSize < l.defaultPageSize then some (.defaultPageSize l.defaultPageSize l.maxPageSize)
  else none

end Limits

namespace LimitSettings

def empty : LimitSettings :=
  ⟨none, none, none, none, none⟩

/-- Two layers as one: what the first does not set is taken from the second. -/
def orElse (upper lower : LimitSettings) : LimitSettings where
  maxFilterBytes := upper.maxFilterBytes <|> lower.maxFilterBytes
  maxFilterDepth := upper.maxFilterDepth <|> lower.maxFilterDepth
  castWidth := upper.castWidth <|> lower.castWidth
  defaultPageSize := upper.defaultPageSize <|> lower.defaultPageSize
  maxPageSize := upper.maxPageSize <|> lower.maxPageSize

/-- The limits that the settings leave in force. -/
def effective (s : LimitSettings) : Limits where
  maxFilterBytes := s.maxFilterBytes.getD Limits.default.maxFilterBytes
  maxFilterDepth := s.maxFilterDepth.getD Limits.default.maxFilterDepth
  castWidth := s.castWidth.getD Limits.default.castWidth
  defaultPageSize := s.defaultPageSize.getD Limits.default.defaultPageSize
  maxPageSize := s.maxPageSize.getD Limits.default.maxPageSize

/-- The limits that two layers leave in force, if they make sense together. -/
def atop (upper lower : LimitSettings) : Except LimitFault Limits :=
  let limits := (upper.orElse lower).effective
  match limits.fault? with
  | some fault => .error fault
  | none => .ok limits

end LimitSettings

def LimitFault.message : LimitFault → String
  | noFilterBytes => "Configuration error: filter.max_bytes must be greater than 0"
  | noFilterDepth => "Configuration error: filter.max_depth must be greater than 0"
  | castWidth => s!"Configuration error: pagination.cast_width must be between 1 and {Limits.maxCastWidth}"
  | maxPageSize size =>
    s!"Configuration error: pagination.max_page_size ({size}) cannot exceed {Limits.pageBound}"
  | defaultPageSize size max =>
    s!"Configuration error: pagination.default_page_size ({size}) cannot exceed pagination.max_page_size ({max})"

end FilterQuery
