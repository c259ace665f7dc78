/-
The logical fields that a document states. Each kind of document has its own names for a field; they are looked
for one after another, without regard to case, and with blanks and hyphens as `_`.
-/
import DocumentaryCredit.Presentation.Document
import DocumentaryCredit.Presentation.Value

namespace DocumentaryCredit

/-- The names of a field on a kind of document, the most specific first. -/
def aliases : DocumentKind → LogicalField → List String
  | .credit, .amount => ["32b", "amount", "credit_amount"]
  | .credit, .expiryDate => ["31d", "expiry_date", "date_of_expiry"]
  | .credit, .latestShipmentDate => ["44c", "latest_shipment_date", "latest_date_of_shipment"]
  | .credit, .issueDate => ["31c", "issue_date", "date_of_issue"]
  | .credit, .beneficiary => ["59", "beneficiary"]
  | .credit, .applicant => ["50", "applicant"]
  | .credit, .goodsDescription => ["45a", "description_of_goods", "goods_description"]
  | .credit, .portOfLoading => ["44e", "port_of_loading"]
  | .credit, .portOfDischarge => ["44f", "port_of_discharge"]
  | .credit, .creditNumber => ["20", "credit_number", "documentary_credit_number"]
  | .credit, .shipmentDate | .credit, .quantity => []
  | .commercialInvoice, .amount => ["amount", "invoice_amount", "total_amount", "total"]
  | .commercialInvoice, .issueDate => ["invoice_date", "issue_date", "date"]
  | .commercialInvoice, .beneficiary => ["beneficiary", "seller", "exporter"]
  | .commercialInvoice, .applicant => ["applicant", "buyer", "importer"]
  | .billOfLading, .shipmentDate =>
    ["shipped_on_board_date", "on_board_date", "shipment_date", "shipping_date", "date_of_shipment"]
  | .billOfLading, .issueDate => ["issue_date", "bl_date", "date"]
  | .insuranceDocument, .shipmentDate => ["shipment_date"]
  | .packingList, .beneficiary => ["beneficiary", "seller", "exporter"]
  | .draft, .amount => ["amount", "draft_amount"]
  | .certificateOfOrigin, .beneficiary => ["exporter", "beneficiary"]
  | .insuranceDocument, .issueDate | .packingList, .issueDate | .draft, .issueDate
  | .certificateOfOrigin, .issueDate => ["issue_date", "date"]
  | .draft, .goodsDescription | .draft, .quantity => []
  | _, .portOfLoading => ["port_of_loading", "loading_port"]
  | _, .portOfDischarge => ["port_of_discharge", "discharge_port"]
  | _, .goodsDescription => ["description_of_goods", "goods_description", "goods", "description"]
  | _, .quantity => ["quantity", "total_quantity"]
  | _, .creditNumber => ["credit_number", "lc_number", "lc_reference", "documentary_credit_number"]
  | _, _ => []

/-- The names of the tolerance of a credit's amount. -/
def toleranceKeys : List String := ["39a", "tolerance", "percentage_credit_amount_tolerance"]

/-- The form of a raw name in which it is compared with the names of fields. -/
def normalizeKey (key : String) : String := canonicalName [' ', '-'] key

namespace Document

/-- The raw value under a name. Of several raw names that come to the same, the first counts. -/
def rawValue? (d : Document) (name : String) : Option String :=
  (d.rawFields.entries.find? fun entry => normalizeKey entry.1 == name).map (·.2)

/-- The value under the first of several names that has one; blank values are none. -/
def lookup? (d : Document) (names : List String) : Option String :=
  names.findSome? fun name => (d.rawValue? name).filter (!Text.isBlank ·)

/-- The value of a logical field. Of a party only the line with its name counts. -/
def stated? (d : Document) (field : LogicalField) : Option String :=
  ((d.lookup? (aliases d.kind field)).map fun raw =>
    if field.category = .partyName then partyName raw else Text.trim raw).filter (!·.isEmpty)

/-- The logical fields that a document states, in their order, with their values. -/
def extract (d : Document) : List (LogicalField × String) :=
  Named.all.filterMap fun field => (d.stated? field).map fun value => (field, value)

/-- The tolerance that a credit states. -/
def tolerance? (d : Document) : Option String := if d.kind.isCredit then d.lookup? toleranceKeys else none

end Document

end DocumentaryCredit
