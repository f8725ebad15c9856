import Schengen.Tables.Partition
import Schengen.Tables.RowCursor
import Schengen.Random.RowRandomLong

/-!
# The part table
-/

namespace Schengen.Tables
open Library Schengen.Random

structure PartRow where
  pPartkey : Int
  pName : String
  pMfgr : String
  pBrand : String
  pType : String
  pSize : Int
  pContainer : String
  pRetailpriceCents : Int
  pRetailprice : ℚ
  pComment : List Char

/-- The streams of `PartRowIterator`. -/
structure PartStreams where
  nameRandom : RandomStringSequence
  manufacturerRandom : RandomBoundedInt
  brandRandom : RandomBoundedInt
  typeRandom : RandomString
  sizeRandom : RandomBoundedInt
  containerRandom : RandomString
  commentRandom : RandomText
  deriving Inhabited

namespace PartStreams

def kNameWords : Int := 5
def kManufacturerMin : Int := 1
def kManufacturerMax : Int := 5
def kBrandMin : Int := 1
def kBrandMax : Int := 5
def kSizeMin : Int := 1
def kSizeMax : Int := 50
def kCommentAverageLength : Nat := 14
def kNameSeed : Int := 709314158
def kManufacturerSeed : Int := 1
def kBrandSeed : Int := 46831694
def kTypeSeed : Int := 1841581359
def kSizeSeed : Int := 1193163244
def kContainerSeed : Int := 727633698
def kCommentSeed : Int := 804159733

def new (textPool : TextPool) : PartStreams where
  nameRandom := .new kNameSeed kNameWords kColorsDist 1
  manufacturerRandom := .new kManufacturerSeed kManufacturerMin kManufacturerMax 1
  brandRandom := .new kBrandSeed kBrandMin kBrandMax 1
  typeRandom := .new kTypeSeed kPartTypesDist 1
  sizeRandom := .new kSizeSeed kSizeMin kSizeMax 1
  containerRandom := .new kContainerSeed kPartContainersDist 1
  commentRandom := .new kCommentSeed textPool kCommentAverageLength 1

def advanceRows (s : PartStreams) (rows : Nat) : PartStreams where
  nameRandom := s.nameRandom.advanceRows rows
  manufacturerRandom := s.manufacturerRandom.advanceRows rows
  brandRandom := s.brandRandom.advanceRows rows
  typeRandom := s.typeRandom.advanceRows rows
  sizeRandom := s.sizeRandom.advanceRows rows
  containerRandom := s.containerRandom.advanceRows rows
  commentRandom := s.commentRandom.advanceRows rows

def rowFinished (s : PartStreams) : PartStreams where
  nameRandom := s.nameRandom.rowFinished
  manufacturerRandom := s.manufacturerRandom.rowFinished
  brandRandom := s.brandRandom.rowFinished
  typeRandom := s.typeRandom.rowFinished
  sizeRandom := s.sizeRandom.rowFinished
  containerRandom := s.containerRandom.rowFinished
  commentRandom := s.commentRandom.rowFinished

def formatManufacturer (mfgrKey : Int) : String := "Manufacturer#" ++ toString mfgrKey

def formatBrand (brandKey : Int) : String := "Brand#" ++ toString brandKey

def calculatePartPrice (partKey : Int) : Int :=
  90000 + (partKey.tdiv 10).tmod 20001 + (partKey.tmod 1000) * 100

/-- The body of `NextValue`, for an output row that is asked for. -/
def read (sampler : IntSampler) (nextRow : Nat) (s : PartStreams) : PartRow × PartStreams :=
  let partKey := toInt32 (nextRow + 1)
  let nameTokens := s.nameRandom.nextValue sampler
  let mfgrKey := s.manufacturerRandom.nextValue sampler
  let brand := s.brandRandom.nextValue sampler
  let brandKey := mfgrKey.1 * 10 + brand.1
  let type := s.typeRandom.nextValue sampler
  let size := s.sizeRandom.nextValue sampler
  let container := s.containerRandom.nextValue sampler
  let comment := s.commentRandom.nextValue sampler
  let priceCents := calculatePartPrice partKey
  ({ pPartkey := partKey
     pName := joinTokens nameTokens.1
     pMfgr := formatManufacturer mfgrKey.1
     pBrand := formatBrand brandKey
     pType := type.1
     pSize := size.1
     pContainer := container.1
     pRetailpriceCents := priceCents
     pRetailprice := (priceCents : ℚ) / 100
     pComment := comment.1 },
   { nameRandom := nameTokens.2
     manufacturerRandom := mfgrKey.2
     brandRandom := brand.2
     typeRandom := type.2
     sizeRandom := size.2
     containerRandom := container.2
     commentRandom := comment.2 })

lemma read_streams (sampler : IntSampler) (r : Nat) (s : PartStreams) :
    (read sampler r s).2 =
      { nameRandom := (s.nameRandom.nextValue sampler).2
        manufacturerRandom := (s.manufacturerRandom.nextValue sampler).2
        brandRandom := (s.brandRandom.nextValue sampler).2
        typeRandom := (s.typeRandom.nextValue sampler).2
        sizeRandom := (s.sizeRandom.nextValue sampler).2
        containerRandom := (s.containerRandom.nextValue sampler).2
        commentRandom := (s.commentRandom.nextValue sampler).2 } := rfl

theorem finish_read (sampler : IntSampler) (textPool : TextPool) (r : Nat) :
    (read sampler r ((new textPool).advanceRows r)).2.rowFinished =
      (new textPool).advanceRows (r + 1) := by
  have hname : RowStream.Fresh kColorsDist.size (new textPool).nameRandom :=
    RandomStringSequence.fresh_new (Nat.mul_one kColorsDist.size).ge (by decide)
  have htype : RowStream.Fresh 1 (new textPool).typeRandom :=
    RandomString.fresh_new le_rfl (by decide)
  have hcontainer : RowStream.Fresh 1 (new textPool).containerRandom :=
    RandomString.fresh_new le_rfl (by decide)
  simp only [read_streams, rowFinished, advanceRows, PartStreams.mk.injEq]
  refine ⟨RandomStringSequence.finish_nextValue sampler hname r, ?_, ?_,
    RandomString.finish_nextValue sampler htype r, ?_,
    RandomString.finish_nextValue sampler hcontainer r, ?_⟩
  · refine RandomBoundedInt.finish_nextValue sampler (RandomBoundedInt.fresh_new ?_ ?_) r <;> decide
  · refine RandomBoundedInt.finish_nextValue sampler (RandomBoundedInt.fresh_new ?_ ?_) r <;> decide
  · refine RandomBoundedInt.finish_nextValue sampler (RandomBoundedInt.fresh_new ?_ ?_) r <;> decide
  · refine RandomText.finish_nextValue sampler (RandomText.fresh_new ?_ ?_) r <;> decide

lemma advanceRows_zero (textPool : TextPool) : (new textPool).advanceRows 0 = new textPool := rfl

end PartStreams

end Schengen.Tables
