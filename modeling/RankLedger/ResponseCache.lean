import RankLedger.Keyed

set_option autoImplicit false

/-! # Response cache

Answers kept under a key in a namespace, for a fixed lifetime. Each namespace has a generation that
`invalidate` moves on; an answer is taken in only with the generation under which its computation
began, so one computed from what has since changed is never kept. -/

namespace RankLedger

/-- A kept answer and the instant at which it came. -/
structure KeptAnswer (α : Type) where
  value : α
  since : Nat
  deriving DecidableEq, Repr, Inhabited

/-- The answers of one namespace. -/
structure AnswerSpace (α : Type) where
  generation : UInt64 := 0
  answers : Keyed String (KeptAnswer α) := []
  deriving Inhabited

/-- Answers by namespace and key. Instants are counted in billionths of a second. -/
structure ResponseCache (α : Type) where
  /-- How many seconds an answer is kept. -/
  lifetime : Nat
  spaces : Keyed String (AnswerSpace α) := []
  deriving Inhabited

namespace ResponseCache

variable {α : Type}

/-- The lifetime of answers unless another one is chosen. -/
def defaultLifetime : Nat := 60

/-- A cache with no answers. -/
def empty (lifetime : Nat) : ResponseCache α := { lifetime := lifetime }

/-- The answers of a namespace; none in one never used. -/
def space (c : ResponseCache α) (ns : String) : AnswerSpace α := (c.spaces.get? ns).getD {}

/-- Replace the answers of a namespace. -/
def putSpace (c : ResponseCache α) (ns : String) (s : AnswerSpace α) : ResponseCache α :=
  { c with spaces := c.spaces.put ns s }

/-- Whether an answer has not outlived the lifetime. -/
def isFresh (c : ResponseCache α) (now : Nat) (a : KeptAnswer α) : Bool :=
  now - a.since < c.lifetime * 1000000000

/-- The generation of a namespace. -/
def generation (c : ResponseCache α) (ns : String) : UInt64 := (c.space ns).generation

/-- The fresh answer under a key. -/
def get (c : ResponseCache α) (now : Nat) (ns key : String) : Option α :=
  (((c.space ns).answers.get? key).filter (c.isFresh now)).map (·.value)

/-- Take in an answer computed under a generation, if that is still the current one; answers that
are no longer fresh go. Tells whether the answer was taken in. -/
def put (c : ResponseCache α) (now : Nat) (ns key : String) (value : α) (generation : UInt64) :
    Bool × ResponseCache α :=
  let s := c.space ns
  if s.generation = generation then
    let fresh := s.answers.filter fun p => c.isFresh now p.2
    (true, c.putSpace ns { s with answers := Keyed.put fresh key ⟨value, now⟩ })
  else (false, c)

/-- Drop the answers of a namespace and move its generation on. Tells how many went. -/
def invalidate (c : ResponseCache α) (ns : String) : Nat × ResponseCache α :=
  let s := c.space ns
  (s.answers.length, c.putSpace ns { generation := s.generation + 1 })

/-- The number of fresh answers in a namespace. -/
def count (c : ResponseCache α) (now : Nat) (ns : String) : Nat :=
  ((c.space ns).answers.filter fun p => c.isFresh now p.2).length

/-! ## One equation per operation -/

@[simp] theorem space_empty (lifetime : Nat) (ns : String) :
    (empty lifetime : ResponseCache α).space ns = {} := rfl

theorem space_putSpace (c : ResponseCache α) (ns : String) (s : AnswerSpace α) (ns' : String) :
    (c.putSpace ns s).space ns' = if ns = ns' then s else c.space ns' := by
  unfold space putSpace
  rw [Keyed.get?_put]
  split <;> rfl

theorem space_put_of_ne (c : ResponseCache α) (now : Nat) {ns ns' : String} (key : String)
    (value : α) (generation : UInt64) (h : ns ≠ ns') :
    (c.put now ns key value generation).2.space ns' = c.space ns' := by
  simp only [put]
  split <;> simp [space_putSpace, h]

theorem space_invalidate (c : ResponseCache α) (ns ns' : String) :
    (c.invalidate ns).2.space ns' =
      if ns = ns' then { generation := c.generation ns + 1 } else c.space ns' := by
  unfold invalidate
  rw [space_putSpace]
  rfl

end ResponseCache

end RankLedger
