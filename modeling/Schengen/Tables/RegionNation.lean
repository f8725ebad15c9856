import Schengen.Tables.Partition
import Schengen.Tables.RowCursor
import Schengen.Random.RowRandomLong

/-!
# The region and nation tables

Their sizes are fixed, so `Reset` clamps the end of the range.
-/

namespace Schengen.Tables
open Library Schengen.Random

structure RegionRow where
  rRegionkey : Int
  rName : String
  rComment : List Char

structure RegionStreams where
  commentRandom : RandomText
  deriving Inhabited

namespace RegionStreams

def kRegionNames : List String := ["AFRICA", "AMERICA", "ASIA", "EUROPE", "MIDDLE EAST"]
def kCommentSeed : Int := 1500869201
def kCommentAverageLength : Nat := 72
def kRegionCount : Nat := kRegionNames.length

def new (textPool : TextPool) : RegionStreams where
  commentRandom := .new kCommentSeed textPool kCommentAverageLength 1

def advanceRows (s : RegionStreams) (rows : Nat) : RegionStreams where
  commentRandom := s.commentRandom.advanceRows rows

def rowFinished (s : RegionStreams) : RegionStreams where
  commentRandom := s.commentRandom.rowFinished

def read (sampler : IntSampler) (nextRow : Nat) (s : RegionStreams) : RegionRow × RegionStreams :=
  let comment := s.commentRandom.nextValue sampler
  ({ rRegionkey := toInt32 nextRow
     rName := kRegionNames.getD nextRow ""
     rComment := comment.1 },
   { commentRandom := comment.2 })

theorem finish_read (sampler : IntSampler) (textPool : TextPool) (r : Nat) :
    (read sampler r ((new textPool).advanceRows r)).2.rowFinished =
      (new textPool).advanceRows (r + 1) := by
  unfold rowFinished advanceRows
  congr 1
  refine RandomText.finish_nextValue sampler (RandomText.fresh_new ?_ ?_) r <;> decide

lemma advanceRows_zero (textPool : TextPool) : (new textPool).advanceRows 0 = new textPool := rfl

end RegionStreams

structure NationRow where
  nNationkey : Int
  nName : String
  nRegionkey : Int
  nComment : List Char

structure NationStreams where
  regionCumSum : Int
  commentRandom : RandomText
  deriving Inhabited

namespace NationStreams

def kCommentAverageLength : Nat := 72
def kCommentSeed : Int := 606179079
def kNationCount : Nat := kNations.length

def new (textPool : TextPool) : NationStreams where
  regionCumSum := 0
  commentRandom := .new kCommentSeed textPool kCommentAverageLength 1

/-- The weight of a nation; `Reset` and `Next` stay inside the list. -/
def nationWeight (i : Nat) : Int := ((kNations[i]?).map DistributionEntry.weight).getD 0

/-- `Reset` also adds the weights of the skipped nations up. -/
def advanceRows (s : NationStreams) (rows : Nat) : NationStreams where
  regionCumSum := (List.range rows).foldl (fun sum i => sum + nationWeight i) s.regionCumSum
  commentRandom := s.commentRandom.advanceRows rows

def rowFinished (s : NationStreams) : NationStreams where
  regionCumSum := s.regionCumSum
  commentRandom := s.commentRandom.rowFinished

def read (sampler : IntSampler) (nextRow : Nat) (s : NationStreams) : NationRow × NationStreams :=
  let regionCumSum := s.regionCumSum + nationWeight nextRow
  let comment := s.commentRandom.nextValue sampler
  ({ nNationkey := toInt32 nextRow
     nName := ((kNations[nextRow]?).map DistributionEntry.token).getD ""
     nRegionkey := regionCumSum
     nComment := comment.1 },
   { regionCumSum := regionCumSum
     commentRandom := comment.2 })

theorem finish_read (sampler : IntSampler) (textPool : TextPool) (r : Nat) :
    (read sampler r ((new textPool).advanceRows r)).2.rowFinished =
      (new textPool).advanceRows (r + 1) := by
  unfold rowFinished advanceRows
  congr 1
  · rw [List.range_succ, List.foldl_append]
    rfl
  · refine RandomText.finish_nextValue sampler (RandomText.fresh_new ?_ ?_) r <;> decide

lemma advanceRows_zero (textPool : TextPool) : (new textPool).advanceRows 0 = new textPool := rfl

end NationStreams

end Schengen.Tables
