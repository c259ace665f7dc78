/-
Trade documents as they are presented under a credit: each has a kind and the raw fields that were read off it.
The fields that documents have in common, whatever each calls them, are the logical fields, and each of these
belongs to a category, by which it is compared and judged.
-/
import DocumentaryCredit.Message.Schema

namespace DocumentaryCredit

/-! ## Kinds of documents -/

/-- The kinds of trade documents. -/
inductive DocumentKind where
  /-- The credit itself. -/
  | credit
  | commercialInvoice
  | billOfLading
  | insuranceDocument
  | packingList
  | draft
  | certificateOfOrigin
deriving DecidableEq

namespace DocumentKind

instance : Named DocumentKind where
  all := [credit, commercialInvoice, billOfLading, insuranceDocument, packingList, draft, certificateOfOrigin]
  name
    | credit => "credit"
    | commercialInvoice => "commercial_invoice"
    | billOfLading => "bill_of_lading"
    | insuranceDocument => "insurance_document"
    | packingList => "packing_list"
    | draft => "draft"
    | certificateOfOrigin => "certificate_of_origin"

/-- Further names of the kinds. -/
def otherNames : List (String × DocumentKind) := [
  ("mt700", credit), ("letter_of_credit", credit), ("lc", credit),
  ("invoice", commercialInvoice),
  ("bl", billOfLading), ("transport_document", billOfLading),
  ("insurance", insuranceDocument), ("insurance_certificate", insuranceDocument),
  ("bill_of_exchange", draft)]

/-- The kind of a name. -/
def ofName? (name : String) : Option DocumentKind :=
  (Named.read? name).orElse fun _ => (otherNames.find? (·.1 == name)).map (·.2)

/-- The kind of a name, which may have blanks or hyphens and any case. -/
def read? (s : String) : Option DocumentKind := ofName? (canonicalName [' ', '-'] s)

/-- The kind as it is shown to the user. -/
def toText : DocumentKind → String
  | credit => "Documentary credit"
  | commercialInvoice => "Commercial invoice"
  | billOfLading => "Bill of lading"
  | insuranceDocument => "Insurance document"
  | packingList => "Packing list"
  | draft => "Draft"
  | certificateOfOrigin => "Certificate of origin"

/-- Whether the document is the credit. -/
def isCredit (kind : DocumentKind) : Bool := kind = credit

end DocumentKind

/-! ## Documents -/

/-- A document and the fields that were read off it. -/
structure Document where
  kind : DocumentKind
  /-- The number that is printed on it. -/
  reference : Option String
  /-- The raw values by the names they have on the document. -/
  rawFields : TextMap String

/-- Documents that are presented together. -/
structure DocumentSet where
  id : String
  creditReference : String
  documents : List Document

/-- The place of the credit in a set; of several credits the first counts. -/
def DocumentSet.creditIndex? (set : DocumentSet) : Option Nat := set.documents.findIdx? (·.kind.isCredit)

/-- A pointer to a document of a set. -/
structure DocumentRef where
  index : Nat
  kind : DocumentKind
  reference : Option String
deriving DecidableEq

namespace DocumentRef

/-- The pointer to a document at an index. -/
def of (index : Nat) (document : Document) : DocumentRef := ⟨index, document.kind, document.reference⟩

/-- The document as it is shown to the user: by its number, or by its place counted from one. -/
def toText (r : DocumentRef) : String :=
  match r.reference with
  | some reference => r.kind.toText ++ " " ++ reference
  | none => r.kind.toText ++ " (#" ++ toString (r.index + 1) ++ ")"

end DocumentRef

/-! ## Logical fields -/

/-- The categories of logical fields. -/
inductive Category where
  | amount
  | date
  | partyName
  | goodsDescription
  | quantity
  | place
  | reference
deriving DecidableEq

namespace Category

instance : Named Category where
  all := [amount, date, partyName, goodsDescription, quantity, place, reference]
  name
    | amount => "amount"
    | date => "date"
    | partyName => "party_name"
    | goodsDescription => "goods_description"
    | quantity => "quantity"
    | place => "place"
    | reference => "reference"

/-- The category of a name, which may have blanks or hyphens and any case. -/
def read? (s : String) : Option Category := Named.read? (canonicalName [' ', '-'] s)

end Category

/-- The fields that documents are compared by. -/
inductive LogicalField where
  | amount
  | shipmentDate
  | latestShipmentDate
  | expiryDate
  | issueDate
  | beneficiary
  | applicant
  | goodsDescription
  | quantity
  | portOfLoading
  | portOfDischarge
  | creditNumber
deriving DecidableEq

namespace LogicalField

instance : Named LogicalField where
  all := [amount, shipmentDate, latestShipmentDate, expiryDate, issueDate, beneficiary, applicant,
    goodsDescription, quantity, portOfLoading, portOfDischarge, creditNumber]
  name
    | amount => "amount"
    | shipmentDate => "shipment_date"
    | latestShipmentDate => "latest_shipment_date"
    | expiryDate => "expiry_date"
    | issueDate => "issue_date"
    | beneficiary => "beneficiary"
    | applicant => "applicant"
    | goodsDescription => "goods_description"
    | quantity => "quantity"
    | portOfLoading => "port_of_loading"
    | portOfDischarge => "port_of_discharge"
    | creditNumber => "credit_number"

/-- The field as it is shown to the user. -/
def toText : LogicalField → String
  | amount => "amount"
  | shipmentDate => "shipment date"
  | latestShipmentDate => "latest shipment date"
  | expiryDate => "expiry date"
  | issueDate => "issue date"
  | beneficiary => "beneficiary name"
  | applicant => "applicant name"
  | goodsDescription => "description of goods"
  | quantity => "quantity"
  | portOfLoading => "port of loading"
  | portOfDischarge => "port of discharge"
  | creditNumber => "credit number"

/-- The category of a field. -/
def category : LogicalField → Category
  | amount => .amount
  | shipmentDate | latestShipmentDate | expiryDate | issueDate => .date
  | beneficiary | applicant => .partyName
  | goodsDescription => .goodsDescription
  | quantity => .quantity
  | portOfLoading | portOfDischarge => .place
  | creditNumber => .reference

/-- Whether two documents that both state the field must agree on it. -/
def mustAgree : LogicalField → Bool
  | issueDate | latestShipmentDate | expiryDate => false
  | _ => true

end LogicalField

end DocumentaryCredit
