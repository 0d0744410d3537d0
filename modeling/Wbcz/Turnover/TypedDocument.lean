import Wbcz.Turnover.Returns

/-!
# A turnover document of any type
-/

namespace Wbcz.Turnover

open Calendar
open Wbcz.Marketplace (LkReceiptDistanceDocument WithdrawalProduct)

/-- `TypedDocument`. -/
inductive TypedDocument where
  | lpIntroduceGoods (document : LpIntroduceGoodsDocument)
  | lkIndiCommissioning (document : LkIndiCommissioningDocument)
  | lpGoodsImport (document : LpGoodsImportDocument)
  | crossborder (document : CrossborderDocument)
  | lpIntroduceOst (document : LpIntroduceOstDocument)
  | lkContractCommissioning (document : LkContractCommissioningDocument)
  | lpFtsIntroduce (document : LpFtsIntroduceDocument)
  | lkReceiptDistance (document : LkReceiptDistanceDocument)
  | lpReturn (document : LpReturnDocument)
  | lkRemark (document : LkRemarkDocument)
  | writeOff (document : WriteOffDocument)
  | lkReceiptCancel (document : LkReceiptCancelDocument)

mutual

/-- The code of a product of an individual, and those of the products in it. -/
def IndividualProduct.codes : IndividualProduct → List String
  | .mk uit uitu _ _ children => (uit.or uitu).toList ++ IndividualProduct.codesAll children

def IndividualProduct.codesAll : List IndividualProduct → List String
  | [] => []
  | product :: rest => product.codes ++ IndividualProduct.codesAll rest

end

/-- The codes of a product that is marked anew. -/
def RemarkProduct.codes (product : RemarkProduct) : List String :=
  product.newUin :: product.lastUin.toList

namespace TypedDocument

/-- `to_wire` on a day. -/
def toWire (today : Date) : TypedDocument → Except PyError Wire
  | lpIntroduceGoods document => document.toWire
  | lkIndiCommissioning document => document.toWire
  | lpGoodsImport document => document.toWire
  | crossborder document => document.toWire
  | lpIntroduceOst document => document.toWire
  | lkContractCommissioning document => document.toWire
  | lpFtsIntroduce document => document.toWire
  | lkReceiptDistance document => document.toWire today
  | lpReturn document => document.toWire
  | lkRemark document => document.toWire today
  | writeOff document => document.toWire today
  | lkReceiptCancel document => document.toWire

/-- The fields of a document pass. -/
def Valid (today : Date) : TypedDocument → Prop
  | lpIntroduceGoods document => document.Valid
  | lkIndiCommissioning document => document.Valid
  | lpGoodsImport document => document.Valid
  | crossborder document => document.Valid
  | lpIntroduceOst document => document.Valid
  | lkContractCommissioning document => document.Valid
  | lpFtsIntroduce document => document.Valid
  | lkReceiptDistance document => Distance.Valid today document
  | lpReturn document => document.Valid
  | lkRemark document => document.Valid today
  | writeOff document => document.Valid today
  | lkReceiptCancel document => document.Valid

/-- A document on the wire. -/
def wire : TypedDocument → Wire
  | lpIntroduceGoods document => document.wire
  | lkIndiCommissioning document => document.wire
  | lpGoodsImport document => document.wire
  | crossborder document => document.wire
  | lpIntroduceOst document => document.wire
  | lkContractCommissioning document => document.wire
  | lpFtsIntroduce document => document.wire
  | lkReceiptDistance document => Distance.wire document
  | lpReturn document => document.wire
  | lkRemark document => document.wire
  | writeOff document => document.wire
  | lkReceiptCancel document => document.wire

/-- The codes that a document names. -/
def codes : TypedDocument → List String
  | lpIntroduceGoods document => document.products.map TnvedProduct.code
  | lkIndiCommissioning document => IndividualProduct.codesAll document.productsList
  | lpGoodsImport document => document.products.map TnvedProduct.code
  | crossborder document => document.productsList.map TnvedProduct.code
  | lpIntroduceOst document => document.productsList.map RemainsProduct.ki
  | lkContractCommissioning document => document.productsList.map TnvedProduct.code
  | lpFtsIntroduce document => document.productsList.map FtsProduct.cis
  | lkReceiptDistance document => document.products.map WithdrawalProduct.cis
  | lpReturn document => document.productsList.map ReturnProduct.ki
  | lkRemark document => document.products.flatMap RemarkProduct.codes
  | writeOff document => document.sntins
  | lkReceiptCancel _ => []

/-- A document passes when its fields do, and has them on the wire as they are. -/
theorem toWire_eq_ok {today : Date} {document : TypedDocument} {wire : Wire} :
    document.toWire today = .ok wire ↔ wire = document.wire ∧ document.Valid today := by
  cases document with
  | lpIntroduceGoods document => exact document.toWire_eq_ok
  | lkIndiCommissioning document => exact document.toWire_eq_ok
  | lpGoodsImport document => exact document.toWire_eq_ok
  | crossborder document => exact document.toWire_eq_ok
  | lpIntroduceOst document => exact document.toWire_eq_ok
  | lkContractCommissioning document => exact document.toWire_eq_ok
  | lpFtsIntroduce document => exact document.toWire_eq_ok
  | lkReceiptDistance document => exact Distance.toWire_eq_ok
  | lpReturn document => exact document.toWire_eq_ok
  | lkRemark document => exact document.toWire_eq_ok
  | writeOff document => exact document.toWire_eq_ok
  | lkReceiptCancel document => exact document.toWire_eq_ok

end TypedDocument

end Wbcz.Turnover
