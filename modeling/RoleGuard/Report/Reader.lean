import RoleGuard.Report
import RoleGuard.Rule.Reader

/-! # Reading Reports

    A report is read back from the document that it was written as. The
    totals of the document are ignored, since a report computes them.
-/

namespace RoleGuard

/-- Reads a list of texts. -/
def readTexts (location : List Step) (v : Value) : Checked (List String) :=
  Schema.items .list Schema.text location v

/-- Reads a finding at a location. -/
def Finding.readAt (location : List Step) : Value → Checked Finding
  | .map entries =>
    (Checked.both (Schema.required Schema.text location "role" entries) <|
      Checked.both (Schema.required Schema.text location "error" entries) <|
      Checked.both
        (Schema.defaulted [] (Schema.items .list Rule.readAt) location "missing" entries)
        (Schema.defaulted [] readTexts location "suggestions" entries)).map
      fun p => ⟨p.1, p.2.1, p.2.2.1, p.2.2.2⟩
  | _ => Checked.fault location (.model .finding)

/-- Reads the fields of a report. -/
def Report.readFields (entries : List (Value × Value)) : Checked Report :=
  (Checked.both (Schema.defaulted [] readTexts [] "checked" entries)
    (Schema.defaulted [] (Schema.items .list Finding.readAt) [] "findings" entries)).map
    fun p => ⟨p.1, p.2⟩

/-- Reads a report. -/
def Report.ofValue? : Value → Except Rejection Report
  | .map entries => (readFields entries).mapError fun faults => ⟨.report, faults⟩
  | _ => .error ⟨.report, [⟨[], .model .report⟩]⟩

end RoleGuard
