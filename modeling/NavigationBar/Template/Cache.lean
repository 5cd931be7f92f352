/-!
# A cache of what was compiled

Entries by their keys, the one that was used last first. A bounded cache drops the entry that was
unused for the longest time when it grows beyond its bound, which is at least one.
-/

namespace NavigationBar.Template

/-- How many entries a cache keeps. -/
inductive CachePolicy where
  /-- All of them. -/
  | unbounded
  /-- So many that were used last, but at least one. -/
  | leastRecent (size : Nat)
deriving DecidableEq, Repr, Inhabited

/-- The greatest number of entries. -/
def CachePolicy.capacity? : CachePolicy → Option Nat
  | unbounded => none
  | leastRecent n => some (max 1 n)

/-- A cache. -/
structure Cache (κ α : Type) where
  /-- How many entries it keeps. -/
  policy : CachePolicy := .unbounded
  /-- Its entries, the one that was used last first. -/
  entries : List (κ × α) := []
deriving Inhabited

namespace Cache

variable {κ α : Type} [DecidableEq κ]

/-- The number of entries. -/
def size (c : Cache κ α) : Nat :=
  c.entries.length

/-- The cache without an entry. -/
def clear (c : Cache κ α) : Cache κ α :=
  { c with entries := [] }

/-- The entry of a key. -/
def get? (c : Cache κ α) (key : κ) : Option α :=
  c.entries.lookup key

/-- The cache after the entry of a key was used. -/
def used (c : Cache κ α) (key : κ) (a : α) : Cache κ α :=
  let rest := c.entries.filter fun e => e.1 != key
  let entries := (key, a) :: rest
  match c.policy.capacity? with
  | none => { c with entries }
  | some n => { c with entries := entries.take n }

/-- The entry of a key, or what `make` gives for it, which is kept if it is no error. -/
def getOrMake {ε : Type} (c : Cache κ α) (key : κ) (make : Unit → Except ε α) :
    Except ε α × Cache κ α :=
  match c.get? key with
  | some a => (.ok a, c.used key a)
  | none =>
    match make () with
    | .ok a => (.ok a, c.used key a)
    | .error e => (.error e, c)

end Cache

end NavigationBar.Template
