import Schengen.Tables.Partition
import Schengen.Tables.RowCursor
import Schengen.Random.RowRandomLong

/-!
# The customer table
-/

namespace Schengen.Tables
open Library Schengen.Random

structure CustomerRow where
  cCustkey : Int
  cName : String
  cAddress : String
  cNationkey : Int
  cPhone : String
  cAcctbalCents : Int
  cAcctbal : ℚ
  cMktsegment : String
  cComment : List Char

/-- The streams of `CustomerRowIterator`. -/
structure CustomerStreams where
  addressRandom : RandomAlphaNumeric
  nationKeyRandom : RandomBoundedInt
  phoneRandom : RandomPhoneNumber
  accountBalanceRandom : RandomBoundedInt
  marketSegmentRandom : RandomString
  commentRandom : RandomText
  deriving Inhabited

namespace CustomerStreams

def kAccountBalanceMin : Int := -99999
def kAccountBalanceMax : Int := 999999
def kAddressAverageLength : Nat := 25
def kCommentAverageLength : Nat := 73
def kAddressSeed : Int := 881155353
def kNationKeySeed : Int := 1489529863
def kPhoneSeed : Int := 1521138112
def kAccountBalanceSeed : Int := 298370230
def kMarketSegmentSeed : Int := 1140279430
def kCommentSeed : Int := 1335826707

def new (textPool : TextPool) : CustomerStreams where
  addressRandom := .new kAddressSeed kAddressAverageLength 1
  nationKeyRandom := .new kNationKeySeed 0 (kNations.length - 1 : Nat) 1
  phoneRandom := .new kPhoneSeed 1
  accountBalanceRandom := .new kAccountBalanceSeed kAccountBalanceMin kAccountBalanceMax 1
  marketSegmentRandom := .new kMarketSegmentSeed kMarketSegmentsDist 1
  commentRandom := .new kCommentSeed textPool kCommentAverageLength 1

def advanceRows (s : CustomerStreams) (rows : Nat) : CustomerStreams where
  addressRandom := s.addressRandom.advanceRows rows
  nationKeyRandom := s.nationKeyRandom.advanceRows rows
  phoneRandom := s.phoneRandom.advanceRows rows
  accountBalanceRandom := s.accountBalanceRandom.advanceRows rows
  marketSegmentRandom := s.marketSegmentRandom.advanceRows rows
  commentRandom := s.commentRandom.advanceRows rows

def rowFinished (s : CustomerStreams) : CustomerStreams where
  addressRandom := s.addressRandom.rowFinished
  nationKeyRandom := s.nationKeyRandom.rowFinished
  phoneRandom := s.phoneRandom.rowFinished
  accountBalanceRandom := s.accountBalanceRandom.rowFinished
  marketSegmentRandom := s.marketSegmentRandom.rowFinished
  commentRandom := s.commentRandom.rowFinished

def formatCustomerName (customerKey : Int) : String :=
  "Customer#" ++ formatPadded 9 customerKey

/-- The body of `Next`, for an output row that is asked for. -/
def read (sampler : IntSampler) (nextRow : Nat) (s : CustomerStreams) :
    CustomerRow × CustomerStreams :=
  let customerKey := toInt32 (nextRow + 1)
  let address := s.addressRandom.nextValue sampler
  let nationKey := s.nationKeyRandom.nextValue sampler
  let phone := s.phoneRandom.nextValue sampler nationKey.1
  let acctbalCents := s.accountBalanceRandom.nextValue sampler
  let mktsegment := s.marketSegmentRandom.nextValue sampler
  let comment := s.commentRandom.nextValue sampler
  ({ cCustkey := customerKey
     cName := formatCustomerName customerKey
     cAddress := address.1.toString sampler
     cNationkey := nationKey.1
     cPhone := phone.1.toString
     cAcctbalCents := acctbalCents.1
     cAcctbal := (acctbalCents.1 : ℚ) / 100
     cMktsegment := mktsegment.1
     cComment := comment.1 },
   { addressRandom := address.2
     nationKeyRandom := nationKey.2
     phoneRandom := phone.2
     accountBalanceRandom := acctbalCents.2
     marketSegmentRandom := mktsegment.2
     commentRandom := comment.2 })

theorem finish_read (sampler : IntSampler) (textPool : TextPool) (r : Nat) :
    (read sampler r ((new textPool).advanceRows r)).2.rowFinished =
      (new textPool).advanceRows (r + 1) := by
  unfold rowFinished advanceRows
  congr 1
  · refine RandomAlphaNumeric.finish_nextValue sampler (RandomAlphaNumeric.fresh_new ?_ ?_) r <;> decide
  · refine RandomBoundedInt.finish_nextValue sampler (RandomBoundedInt.fresh_new ?_ ?_) r <;> decide
  · refine RandomPhoneNumber.finish_nextValue sampler
      (RandomBoundedInt.nextValue sampler ((new textPool).nationKeyRandom.advanceRows r)).1
      (RandomPhoneNumber.fresh_new ?_ ?_) r <;> decide
  · refine RandomBoundedInt.finish_nextValue sampler (RandomBoundedInt.fresh_new ?_ ?_) r <;> decide
  · refine RandomString.finish_nextValue sampler (RandomString.fresh_new ?_ ?_) r <;> decide
  · refine RandomText.finish_nextValue sampler (RandomText.fresh_new ?_ ?_) r <;> decide

lemma advanceRows_zero (textPool : TextPool) : (new textPool).advanceRows 0 = new textPool := rfl

end CustomerStreams

end Schengen.Tables
