/-
The rule book that comes with the checker: the fields of the messages MT700, MT707 and MT799 and the articles of
UCP 600. Its tables are kept row by row, and the manifest pins the hashes of their files like that of any other
rule book.
-/
import DocumentaryCredit.FileTree
import DocumentaryCredit.Json

namespace DocumentaryCredit.Bundled

/-! ## The tables -/

/-- The message types. -/
def messages : List (List String) := [
  ["Message Type", "Name", "Version"],
  ["700", "Issue of a Documentary Credit", "SR2023"],
  ["707", "Amendment to a Documentary Credit", "SR2023"],
  ["799", "Free Format Message", "SR2023"]]

/-- The fields of the message types. -/
def fields : List (List String) := [
  ["Message Type", "Sequence", "Tag", "Field Name", "Format", "Mandatory", "Allowed Values", "Max Occurrences"],
  ["700", "1", "27", "Sequence of Total", "1!n/1!n", "Y", "", ""],
  ["700", "2", "40A", "Form of Documentary Credit", "24x", "Y", "IRREVOCABLE|IRREVOCABLE TRANSFERABLE", ""],
  ["700", "3", "20", "Documentary Credit Number", "16x", "Y", "", ""],
  ["700", "4", "23", "Reference to Pre-Advice", "16x", "N", "", ""],
  ["700", "5", "31C", "Date of Issue", "6!n", "Y", "", ""],
  ["700", "6", "40E", "Applicable Rules", "30x[/35x]", "Y",
    "UCP LATEST VERSION|EUCP LATEST VERSION|UCPURR LATEST VERSION|EUCPURR LATEST VERSION|ISP LATEST VERSION", ""],
  ["700", "7", "31D", "Date and Place of Expiry", "6!n29x", "Y", "", ""],
  ["700", "8", "50", "Applicant", "4*35x", "Y", "", ""],
  ["700", "9", "59", "Beneficiary", "[/34x]\\n4*35x", "Y", "", ""],
  ["700", "10", "32B", "Currency Code, Amount", "3!a15d", "Y", "", ""],
  ["700", "11", "39A", "Percentage Credit Amount Tolerance", "2n/2n", "N", "", ""],
  ["700", "12", "39C", "Additional Amounts Covered", "4*35x", "N", "", ""],
  ["700", "13", "41D", "Available With ... By ...", "4*35x\\n14x", "Y", "", ""],
  ["700", "14", "42C", "Drafts at ...", "3*35x", "N", "", ""],
  ["700", "15", "43P", "Partial Shipments", "11x", "N", "ALLOWED|CONDITIONAL|NOT ALLOWED", ""],
  ["700", "16", "43T", "Transhipment", "11x", "N", "ALLOWED|CONDITIONAL|NOT ALLOWED", ""],
  ["700", "17", "44A", "Place of Taking in Charge/Dispatch from .../Place of Receipt", "140z", "N", "", ""],
  ["700", "18", "44E", "Port of Loading/Airport of Departure", "140z", "N", "", ""],
  ["700", "19", "44F", "Port of Discharge/Airport of Destination", "140z", "N", "", ""],
  ["700", "20", "44B", "Place of Final Destination/For Transportation to .../Place of Delivery", "140z", "N", "", ""],
  ["700", "21", "44C", "Latest Date of Shipment", "6!n", "N", "", ""],
  ["700", "22", "44D", "Shipment Period", "6*65x", "N", "", ""],
  ["700", "23", "45A", "Description of Goods and/or Services", "100*65z", "N", "", ""],
  ["700", "24", "46A", "Documents Required", "100*65z", "N", "", ""],
  ["700", "25", "47A", "Additional Conditions", "100*65z", "N", "", ""],
  ["700", "26", "71D", "Charges", "6*35z", "N", "", ""],
  ["700", "27", "48", "Period for Presentation in Days", "3n[/35x]", "N", "", ""],
  ["700", "28", "49", "Confirmation Instructions", "7!x", "Y", "CONFIRM|MAY ADD|WITHOUT", ""],
  ["700", "29", "78", "Instructions to the Paying/Accepting/Negotiating Bank", "12*65x", "N", "", ""],
  ["700", "30", "72Z", "Sender to Receiver Information", "6*35z", "N", "", ""],
  ["707", "1", "27", "Sequence of Total", "1!n/1!n", "Y", "", ""],
  ["707", "2", "20", "Sender's Reference", "16x", "Y", "", ""],
  ["707", "3", "21", "Receiver's Reference", "16x", "Y", "", ""],
  ["707", "4", "23", "Issuing Bank's Reference", "16x", "N", "", ""],
  ["707", "5", "31C", "Date of Issue", "6!n", "Y", "", ""],
  ["707", "6", "30", "Date of Amendment", "6!n", "Y", "", ""],
  ["707", "7", "26E", "Number of Amendment", "3n", "Y", "", ""],
  ["707", "8", "59", "Beneficiary (Before This Amendment)", "[/34x]\\n4*35x", "Y", "", ""],
  ["707", "9", "31E", "New Date of Expiry", "6!n", "N", "", ""],
  ["707", "10", "32B", "Increase of Documentary Credit Amount", "3!a15d", "N", "", ""],
  ["707", "11", "33B", "Decrease of Documentary Credit Amount", "3!a15d", "N", "", ""],
  ["707", "12", "34B", "New Documentary Credit Amount After Amendment", "3!a15d", "N", "", ""],
  ["707", "13", "39A", "Percentage Credit Amount Tolerance", "2n/2n", "N", "", ""],
  ["707", "14", "44C", "Latest Date of Shipment", "6!n", "N", "", ""],
  ["707", "15", "79", "Narrative", "35*50x", "N", "", ""],
  ["707", "16", "72Z", "Sender to Receiver Information", "6*35z", "N", "", ""],
  ["799", "1", "20", "Transaction Reference Number", "16x", "Y", "", ""],
  ["799", "2", "21", "Related Reference", "16x", "N", "", ""],
  ["799", "3", "79", "Narrative", "35*50x", "Y", "", ""]]

/-- The rules of the fields. -/
def rules : List (List String) := [
  ["Message Type", "Tag", "Rule Kind", "Min", "Max", "Pattern", "Component", "Relation", "Other Tag"],
  ["700", "20", "pattern", "", "", "^[^/]([^/]|/[^/])*$", "", "", ""],
  ["700", "31C", "date", "", "", "", "0", "", ""],
  ["700", "31D", "date", "", "", "", "0", "", ""],
  ["700", "31D", "cross_field", "", "", "", "", "date_not_before", "31C"],
  ["700", "41D", "pattern", "", "", "\\n(BY PAYMENT|BY ACCEPTANCE|BY NEGOTIATION|BY DEF PAYMENT|BY MIXED PYMT)$",
    "", "", ""],
  ["700", "44C", "date", "", "", "", "0", "", ""],
  ["700", "44C", "cross_field", "", "", "", "", "excluded_by", "44D"],
  ["700", "44C", "cross_field", "", "", "", "", "date_not_before", "31C"],
  ["700", "44D", "cross_field", "", "", "", "", "excluded_by", "44C"],
  ["700", "39C", "length", "1", "140", "", "", "", ""],
  ["707", "20", "pattern", "", "", "^[^/]([^/]|/[^/])*$", "", "", ""],
  ["707", "21", "pattern", "", "", "^[^/]([^/]|/[^/])*$", "", "", ""],
  ["707", "31C", "date", "", "", "", "0", "", ""],
  ["707", "30", "date", "", "", "", "0", "", ""],
  ["707", "30", "cross_field", "", "", "", "", "date_not_before", "31C"],
  ["707", "31E", "date", "", "", "", "0", "", ""],
  ["707", "32B", "cross_field", "", "", "", "", "excluded_by", "33B"],
  ["707", "32B", "cross_field", "", "", "", "", "requires", "34B"],
  ["707", "33B", "cross_field", "", "", "", "", "excluded_by", "32B"],
  ["707", "33B", "cross_field", "", "", "", "", "requires", "34B"],
  ["707", "44C", "date", "", "", "", "0", "", ""],
  ["799", "20", "pattern", "", "", "^[^/]([^/]|/[^/])*$", "", "", ""],
  ["799", "21", "pattern", "", "", "^[^/]([^/]|/[^/])*$", "", "", ""],
  ["799", "79", "length", "1", "1750", "", "", "", ""]]

/-- The articles by which disagreements are judged. -/
def articles : List (List String) := [
  ["Category", "Rule Reference", "Severity", "Article Text", "Recommendation"],
  ["amount", "UCP600-18", "critical",
    "A commercial invoice must not be issued for an amount in excess of the amount permitted by the credit.",
    "Check if the nominated bank is willing to accept the invoice with an amount exceeding the credit amount, or obtain a corrected invoice."],
  ["date", "UCP600-14c", "critical",
    "A presentation must be made no later than the expiry date of the credit and documents must be dated within the periods the credit stipulates.",
    "Request an amendment to the credit extending the relevant date, or present corrected documents."],
  ["party_name", "UCP600-14d", "high",
    "Data in a document, read in context with the credit, need not be identical to, but must not conflict with, data in that document, any other stipulated document or the credit.",
    "Align the party name with the credit or obtain the applicant's waiver."],
  ["quantity", "UCP600-30", "high",
    "Quantities stated in the documents must be consistent with the credit, subject to the tolerances permitted by article 30.",
    "Reconcile the quantities across documents or request an amendment to the credit."],
  ["goods_description", "UCP600-14e", "low",
    "In documents other than the commercial invoice, the description of the goods may be in general terms not conflicting with their description in the credit.",
    "Ensure descriptions are consistent or use more general terms in documents other than the commercial invoice."],
  ["place", "UCP600-14d", "medium",
    "Data in a document must not conflict with data in any other stipulated document or the credit.",
    "Correct the place named in the document to match the credit."],
  ["reference", "UCP600-14d", "medium",
    "Data in a document must not conflict with data in any other stipulated document or the credit.",
    "Correct the reference so that it matches the credit and the other documents."]]

/-! ## The files -/

/-- A table as a file: each value in quotes, and a line feed after each row. -/
def tableText (rows : List (List String)) : String :=
  String.join (rows.map fun row => ",".intercalate (row.map fun cell => "\"" ++ cell ++ "\"") ++ "\n")

/-- The line of a manifest that gives a key its value. -/
def setting (key value : String) : String := key ++ " = " ++ Json.quote value

/-- The lines of a manifest that list a table. -/
def entry (path sha256 role : String) : List String :=
  ["", "[[files]]", setting "path" path, setting "sha256" sha256, setting "kind" "csv", setting "role" role]

/-- The manifest. -/
def manifest : String :=
  let lines :=
    ["[manifest]", setting "schema" "lc-checker.standards-manifest", "schema_version = 1", "", "[notes]",
      setting "summary"
        "SWIFT MT7xx field definitions (SR2023 subset) and the UCP 600 discrepancy rule table.",
      "", "[pins]", setting "swift_mt" "SR2023", setting "ucp" "UCP600"]
    ++ entry "swift/messages.csv" "f8ea0eaa7e8035e1b7e69863168552382508a202bc49434725710b9b797bcbc8" "messages"
    ++ entry "swift/fields.csv" "5bd0e05e19e56437ca490438bbd88dde6feefc7d2f8cec40fbb36d1c270ad010" "fields"
    ++ entry "swift/rules.csv" "789aa62dc977239801f9d9bba913d1c37f142d25c56290fd1ebe6ea60ae57c88" "rules"
    ++ entry "ucp600/rules.csv" "29256f7b305d68ccbd4aeb6e07e8c575ffe6b389c77646698d7b6f4c82d4342c" "ucp_rules"
  "\n".intercalate lines ++ "\n"

/-- The files of the rule book by their paths. -/
def files : List (String × String) := [
  ("manifest.toml", manifest),
  ("swift/messages.csv", tableText messages),
  ("swift/fields.csv", tableText fields),
  ("swift/rules.csv", tableText rules),
  ("ucp600/rules.csv", tableText articles)]

/-- A tree with the rule book in a directory. -/
def addTo (tree : FileTree) (directory : String) : FileTree :=
  files.foldl (fun tree (path, text) => tree.put (Path.join directory path) (Text.toBytes text)) tree

end DocumentaryCredit.Bundled
