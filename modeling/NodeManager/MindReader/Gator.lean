import Mathlib.Data.List.Basic

/-!
# The start-block gate

`mindreader/gator.go`. The node prints the blocks before the one the operator asked
to start at; a `BlockNumberGate` drops them. `pass` answers `true` for the first
block numbered at or after the start block and, the gate then staying open, for
every block after it, whatever its number:

    func (g *BlockNumberGate) pass(block *bstream.Block) bool {
        if g.passed {
            return true
        }
        g.passed = block.Num() >= g.blockNum
        return g.passed
    }

The gate is a value here, and `pass` returns the gate after the call beside its answer.

## What is proved

* `passAll_newBlockNumberGate`: on a fresh gate, the answers to a sequence of blocks
  are `false` up to the first block at or after the start block, and `true` from it
  on, also for later blocks numbered below it.
* `gateAfter_eq`, `gatedBlocks_append_singleton`: the gate after a sequence of blocks
  is open exactly when one of them reached the start block, and the blocks it let
  through are the sequence with its prefix below the start block dropped. The reader
  of `MindReader.Plugin` keeps its gate in this form.
-/

namespace NodeManager.MindReader

/-- A block of the chain as the pipeline handles it (`bstream.Block`): the pipeline
reads its number; the identifier tells two blocks of one number apart. -/
structure Block where
  /-- `Num()`. -/
  num : UInt64
  /-- `ID()`. -/
  id : String
  deriving DecidableEq, Repr

/-- `BlockNumberGate`. -/
structure BlockNumberGate where
  /-- Whether a block has gone through. -/
  passed : Bool
  /-- The start block. -/
  blockNum : UInt64
  deriving DecidableEq, Repr

/-- `NewBlockNumberGate(blockNum)`: a closed gate. -/
def newBlockNumberGate (blockNum : UInt64) : BlockNumberGate := ⟨false, blockNum⟩

namespace BlockNumberGate

/-- `pass(block)`: the answer, and the gate after the call. -/
def pass (g : BlockNumberGate) (block : Block) : Bool × BlockNumberGate :=
  if g.passed then (true, g)
  else (decide (block.num ≥ g.blockNum), { g with passed := decide (block.num ≥ g.blockNum) })

/-- `pass` called on each block of a sequence in turn: the answers, in order. -/
def passAll (g : BlockNumberGate) : List Block → List Bool
  | [] => []
  | b :: bs => (g.pass b).1 :: (g.pass b).2.passAll bs

/-- An open gate lets every block through. -/
theorem passAll_open (n : UInt64) (bs : List Block) :
    passAll ⟨true, n⟩ bs = List.replicate bs.length true := by
  induction bs with
  | nil => rfl
  | cons b bs ih => simp [passAll, BlockNumberGate.pass, ih, List.replicate_succ]

end BlockNumberGate

/-- The answers of a fresh gate: `false` before the first block at or after the start
block `t`, `true` from it on (all `false` when there is none). -/
theorem passAll_newBlockNumberGate (t : UInt64) (bs : List Block) :
    (newBlockNumberGate t).passAll bs =
      List.replicate (bs.findIdx fun b => t ≤ b.num) false ++
        List.replicate (bs.length - bs.findIdx fun b => t ≤ b.num) true := by
  induction bs with
  | nil => rfl
  | cons b bs ih =>
    by_cases h : t ≤ b.num
    · simp [BlockNumberGate.passAll, BlockNumberGate.pass, newBlockNumberGate, h,
        BlockNumberGate.passAll_open, List.findIdx_cons, List.replicate_succ]
    · have hp : (newBlockNumberGate t).pass b = (false, newBlockNumberGate t) := by
        simp [BlockNumberGate.pass, newBlockNumberGate, h]
      simp [BlockNumberGate.passAll, hp, List.findIdx_cons, h, ih, List.replicate_succ]

/-- The gate `NewBlockNumberGate(t)` after `pass` on each of `bs`. -/
def gateAfter (t : UInt64) (bs : List Block) : BlockNumberGate :=
  bs.foldl (fun g b => (g.pass b).2) (newBlockNumberGate t)

/-- The blocks of `bs` a fresh gate lets through: all from the first one at or after
the start block `t` on. -/
def gatedBlocks (t : UInt64) (bs : List Block) : List Block :=
  bs.dropWhile fun b => b.num < t

private theorem foldl_pass_open (n : UInt64) (bs : List Block) :
    bs.foldl (fun (g : BlockNumberGate) b => (g.pass b).2) ⟨true, n⟩ = ⟨true, n⟩ := by
  induction bs with
  | nil => rfl
  | cons b bs ih => simpa [BlockNumberGate.pass] using ih

/-- The gate after `bs` is open exactly when one of `bs` reached the start block. -/
theorem gateAfter_eq (t : UInt64) (bs : List Block) :
    gateAfter t bs = ⟨bs.any fun b => t ≤ b.num, t⟩ := by
  induction bs with
  | nil => rfl
  | cons b bs ih =>
    by_cases h : t ≤ b.num
    · have hp : ((newBlockNumberGate t).pass b).2 = ⟨true, t⟩ := by
        simp [BlockNumberGate.pass, newBlockNumberGate, h]
      simp only [gateAfter, List.foldl_cons, hp, foldl_pass_open]
      simp [h]
    · simpa [gateAfter, BlockNumberGate.pass, newBlockNumberGate, h] using ih

theorem gateAfter_append_singleton (t : UInt64) (bs : List Block) (b : Block) :
    gateAfter t (bs ++ [b]) = ((gateAfter t bs).pass b).2 := by
  simp [gateAfter]

theorem gatedBlocks_eq_nil_iff (t : UInt64) (bs : List Block) :
    gatedBlocks t bs = [] ↔ (bs.any fun b => t ≤ b.num) = false := by
  simp [gatedBlocks, List.dropWhile_eq_nil_iff, List.any_eq_false, UInt64.not_le]

/-- One more block: the gate lets it through, and it joins the blocks let through, or
neither. -/
theorem gatedBlocks_append_singleton (t : UInt64) (bs : List Block) (b : Block) :
    gatedBlocks t (bs ++ [b]) =
      gatedBlocks t bs ++ if ((gateAfter t bs).pass b).1 then [b] else [] := by
  rw [gateAfter_eq]
  cases hbs : bs.any fun b => t ≤ b.num
  · have h0 := (gatedBlocks_eq_nil_iff t bs).mpr hbs
    simp only [gatedBlocks] at h0 ⊢
    by_cases h : b.num < t
    · simp [List.dropWhile_append, h0, BlockNumberGate.pass, h, UInt64.not_le.mpr h]
    · simp [List.dropWhile_append, h0, BlockNumberGate.pass, h, UInt64.not_lt.mp h]
  · have h0 : ¬ gatedBlocks t bs = [] := by simp [gatedBlocks_eq_nil_iff, hbs]
    simp only [gatedBlocks] at h0 ⊢
    simp [List.dropWhile_append, h0, BlockNumberGate.pass]

/-- More blocks only add to the blocks let through. -/
theorem gatedBlocks_prefix_append (t : UInt64) (xs ys : List Block) :
    gatedBlocks t xs <+: gatedBlocks t (xs ++ ys) := by
  simp only [gatedBlocks, List.dropWhile_append]
  split
  · rename_i h
    rw [List.isEmpty_iff.mp h]
    exact List.nil_prefix
  · exact List.prefix_append _ _

end NodeManager.MindReader
