import Schengen.Tables.Partition
import Schengen.Tables.RowCursor
import Schengen.Random.RowRandomLong

/-!
# The supplier table

About one comment in a thousand gets a complaint or a recommendation spliced in; only then
the three streams of the splice are drawn from.
-/

namespace Schengen.Tables
open Library Schengen.Random

structure SupplierRow where
  sSuppkey : Int
  sName : String
  sAddress : String
  sNationkey : Int
  sPhone : String
  sAcctbalCents : Int
  sAcctbal : ℚ
  sComment : List Char

/-- The streams of the splice. -/
structure BbbStreams where
  junkRandom : RowRandomInt
  offsetRandom : RowRandomInt
  typeRandom : RandomBoundedInt
  deriving Inhabited

/-- The streams of `SupplierRowIterator`. -/
structure SupplierStreams where
  addressRandom : RandomAlphaNumeric
  nationKeyRandom : RandomBoundedInt
  phoneRandom : RandomPhoneNumber
  accountBalanceRandom : RandomBoundedInt
  commentRandom : RandomText
  bbbCommentRandom : RandomBoundedInt
  bbb : BbbStreams
  deriving Inhabited

namespace SupplierStreams

def kScaleBase : Int := 10000
def kAccountBalanceMin : Int := -99999
def kAccountBalanceMax : Int := 999999
def kAddressAverageLength : Nat := 25
def kCommentAverageLength : Nat := 63
def kBbbBaseText : List Char := "Customer ".toList
def kBbbComplaintText : List Char := "Complaints".toList
def kBbbRecommendText : List Char := "Recommends".toList
def kBbbCommentLength : Int := 9 + 10
def kBbbCommentsPerScaleBase : Int := 10
def kBbbComplaintPercent : Int := 50
def kAddressSeed : Int := 706178559
def kNationKeySeed : Int := 110356601
def kPhoneSeed : Int := 884434366
def kAccountBalanceSeed : Int := 962338209
def kCommentSeed : Int := 1341315363
def kBbbCommentSeed : Int := 202794285
def kBbbJunkSeed : Int := 263032577
def kBbbOffsetSeed : Int := 715851524
def kBbbTypeSeed : Int := 753643799

def new (textPool : TextPool) : SupplierStreams where
  addressRandom := .new kAddressSeed kAddressAverageLength 1
  nationKeyRandom := .new kNationKeySeed 0 (kNations.length - 1 : Nat) 1
  phoneRandom := .new kPhoneSeed 1
  accountBalanceRandom := .new kAccountBalanceSeed kAccountBalanceMin kAccountBalanceMax 1
  commentRandom := .new kCommentSeed textPool kCommentAverageLength 1
  bbbCommentRandom := .new kBbbCommentSeed 1 kScaleBase 1
  bbb :=
    { junkRandom := .new kBbbJunkSeed 1
      offsetRandom := .new kBbbOffsetSeed 1
      typeRandom := .new kBbbTypeSeed 0 100 1 }

def advanceRows (s : SupplierStreams) (rows : Nat) : SupplierStreams where
  addressRandom := s.addressRandom.advanceRows rows
  nationKeyRandom := s.nationKeyRandom.advanceRows rows
  phoneRandom := s.phoneRandom.advanceRows rows
  accountBalanceRandom := s.accountBalanceRandom.advanceRows rows
  commentRandom := s.commentRandom.advanceRows rows
  bbbCommentRandom := s.bbbCommentRandom.advanceRows rows
  bbb :=
    { junkRandom := s.bbb.junkRandom.advanceRows rows
      offsetRandom := s.bbb.offsetRandom.advanceRows rows
      typeRandom := s.bbb.typeRandom.advanceRows rows }

def rowFinished (s : SupplierStreams) : SupplierStreams where
  addressRandom := s.addressRandom.rowFinished
  nationKeyRandom := s.nationKeyRandom.rowFinished
  phoneRandom := s.phoneRandom.rowFinished
  accountBalanceRandom := s.accountBalanceRandom.rowFinished
  commentRandom := s.commentRandom.rowFinished
  bbbCommentRandom := s.bbbCommentRandom.rowFinished
  bbb :=
    { junkRandom := s.bbb.junkRandom.rowFinished
      offsetRandom := s.bbb.offsetRandom.rowFinished
      typeRandom := s.bbb.typeRandom.rowFinished }

def formatSupplierName (supplierKey : Int) : String := "Supplier#" ++ formatPadded 9 supplierKey

/-- `ApplyBBBComment`; a short comment stays and draws nothing. -/
def applyBBBComment (sampler : IntSampler) (comment : List Char) (s : BbbStreams) :
    List Char × BbbStreams :=
  if (comment.length : Int) < kBbbCommentLength then (comment, s)
  else
    let maxNoise := (comment.length : Int) - kBbbCommentLength
    let noise := s.junkRandom.nextInt sampler 0 maxNoise
    let maxOffset := (comment.length : Int) - (kBbbCommentLength + noise.1)
    let offset := s.offsetRandom.nextInt sampler 0 maxOffset
    let type := s.typeRandom.nextValue sampler
    let typeText := if type.1 < kBbbComplaintPercent then kBbbComplaintText else kBbbRecommendText
    let off := offset.1.toNat
    let base := kBbbBaseText.length
    let typeLen := typeText.length
    let n := noise.1.toNat
    (comment.take off ++ kBbbBaseText ++ (comment.drop (off + base)).take n ++ typeText ++
        comment.drop (off + base + n + typeLen),
      { junkRandom := noise.2, offsetRandom := offset.2, typeRandom := type.2 })

/-- The comment of a row whose draw for the splice is `bbbValue`. -/
def commentBuffer (sampler : IntSampler) (bbbValue : Int) (comment : List Char) (s : BbbStreams) :
    List Char × BbbStreams :=
  if bbbValue ≤ kBbbCommentsPerScaleBase then applyBBBComment sampler comment s else (comment, s)

/-- The body of `Next`, for an output row that is asked for. -/
def read (sampler : IntSampler) (nextRow : Nat) (s : SupplierStreams) :
    SupplierRow × SupplierStreams :=
  let supplierKey := toInt32 (nextRow + 1)
  let address := s.addressRandom.nextValue sampler
  let nationKey := s.nationKeyRandom.nextValue sampler
  let phone := s.phoneRandom.nextValue sampler nationKey.1
  let acctbalCents := s.accountBalanceRandom.nextValue sampler
  let comment := s.commentRandom.nextValue sampler
  let bbbValue := s.bbbCommentRandom.nextValue sampler
  let bbb := commentBuffer sampler bbbValue.1 comment.1 s.bbb
  ({ sSuppkey := supplierKey
     sName := formatSupplierName supplierKey
     sAddress := address.1.toString sampler
     sNationkey := nationKey.1
     sPhone := phone.1.toString
     sAcctbalCents := acctbalCents.1
     sAcctbal := (acctbalCents.1 : ℚ) / 100
     sComment := bbb.1 },
   { addressRandom := address.2
     nationKeyRandom := nationKey.2
     phoneRandom := phone.2
     accountBalanceRandom := acctbalCents.2
     commentRandom := comment.2
     bbbCommentRandom := bbbValue.2
     bbb := bbb.2 })

/-- The streams of the splice after at most one draw from each. -/
structure BbbDrawn (start s : BbbStreams) : Prop where
  junk : start.junkRandom.Drawn 1 s.junkRandom
  offset : start.offsetRandom.Drawn 1 s.offsetRandom
  type : RowStream.Drawn start.typeRandom 1 s.typeRandom

lemma bbbDrawn_commentBuffer (sampler : IntSampler) (bbbValue : Int) (comment : List Char)
    {s : BbbStreams} (hjunk : s.junkRandom.usage = 0) (hoffset : s.offsetRandom.usage = 0)
    (htype : RowStream.Fresh 1 s.typeRandom) :
    BbbDrawn s (commentBuffer sampler bbbValue comment s).2 := by
  have hnone : BbbDrawn s s :=
    ⟨(RowRandomInt.Drawn.refl hjunk).mono (Nat.zero_le 1),
      (RowRandomInt.Drawn.refl hoffset).mono (Nat.zero_le 1), htype.drawn.mono (Nat.zero_le 1)⟩
  unfold commentBuffer applyBBBComment
  split_ifs
  · exact hnone
  · exact ⟨(RowRandomInt.Drawn.refl hjunk).nextRand, (RowRandomInt.Drawn.refl hoffset).nextRand,
      RandomBoundedInt.drawn_nextValue sampler htype.drawn⟩
  · exact hnone

theorem finish_read (sampler : IntSampler) (textPool : TextPool) (r : Nat) :
    (read sampler r ((new textPool).advanceRows r)).2.rowFinished =
      (new textPool).advanceRows (r + 1) := by
  have htype : RowStream.Fresh 1 (new textPool).bbb.typeRandom := by
    refine RandomBoundedInt.fresh_new ?_ ?_ <;> decide
  have hbbb : BbbDrawn ((new textPool).advanceRows r).bbb
      (read sampler r ((new textPool).advanceRows r)).2.bbb :=
    bbbDrawn_commentBuffer sampler _ _ (RowRandomInt.usage_advanceRows rfl r)
      (RowRandomInt.usage_advanceRows rfl r) (htype.advanceRows r)
  unfold rowFinished advanceRows
  congr 1
  · refine RandomAlphaNumeric.finish_nextValue sampler (RandomAlphaNumeric.fresh_new ?_ ?_) r <;> decide
  · refine RandomBoundedInt.finish_nextValue sampler (RandomBoundedInt.fresh_new ?_ ?_) r <;> decide
  · refine RandomPhoneNumber.finish_nextValue sampler
      (RandomBoundedInt.nextValue sampler ((new textPool).nationKeyRandom.advanceRows r)).1
      (RandomPhoneNumber.fresh_new ?_ ?_) r <;> decide
  · refine RandomBoundedInt.finish_nextValue sampler (RandomBoundedInt.fresh_new ?_ ?_) r <;> decide
  · refine RandomText.finish_nextValue sampler (RandomText.fresh_new ?_ ?_) r <;> decide
  · refine RandomBoundedInt.finish_nextValue sampler (RandomBoundedInt.fresh_new ?_ ?_) r <;> decide
  · congr 1
    · exact RowRandomInt.finish_row rfl hbbb.junk le_rfl
    · exact RowRandomInt.finish_row rfl hbbb.offset le_rfl
    · exact htype.finish_row hbbb.type le_rfl

lemma advanceRows_zero (textPool : TextPool) : (new textPool).advanceRows 0 = new textPool := rfl

end SupplierStreams

end Schengen.Tables
