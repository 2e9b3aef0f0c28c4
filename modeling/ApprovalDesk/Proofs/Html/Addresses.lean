import ApprovalDesk.Http.Pages
import ApprovalDesk.Mail.Letters
import ApprovalDesk.Proofs.Html.Attributes

/-!
# The addresses in the letter and in the form

The letter about a new request has three links and the form that rejects a request is sent to one
address. What a reader of the document finds in these attributes are the addresses themselves, whatever
else stands in it.
-/

namespace ApprovalDesk

set_option autoImplicit false

open Html

theorem attributeValues_write {name : List Char} {lines : List Line} {values : List String}
    (read : Reads name (chars lines) (values.map escape)) :
    attributeValues (String.ofList name) (write lines) = values := by
  rw [attributeValues, write, String.toList_ofList, String.toList_ofList, read.scan, List.map_map]
  exact (List.map_congr_left fun s _ => unescape_escape s).trans values.map_id

/-- **The links of the letter** lead to its three addresses. -/
theorem Letter.NewRequest.reads_lines (l : NewRequest) : Reads ['h', 'r', 'e', 'f'] (chars l.lines)
    [escape l.proofHref, escape l.approveHref, escape l.rejectHref] := by
  simp only [lines, document, rules, rule, bodyRule, contentRule, footerRule, body, entry, links,
    List.flatten_cons, List.flatten_nil, List.cons_append, List.nil_append, List.append_nil]
  repeat' with_reducible first
    | exact Calm.line_nil _
    | exact Calm.lines_nil _
    | exact Reads.text _ _
    | refine Reads.value_cons ?_ ?_ ?_
    | refine Calm.lines_cons ?_ ?_
    | refine Calm.line_cons ?_ ?_
    | refine Calm.markup_append ?_ ?_
    | refine Reads.markup ?_
  all_goals decide +kernel

/-- **The form is sent** to its address. -/
theorem Http.RejectionForm.reads_lines (f : RejectionForm) :
    Reads ['a', 'c', 't', 'i', 'o', 'n'] (chars f.lines) [escape f.action] := by
  simp only [lines, page, document, pageRules, rule, content, List.flatten_cons, List.flatten_nil,
    List.cons_append, List.nil_append, List.append_nil]
  repeat' with_reducible first
    | exact Calm.line_nil _
    | exact Calm.lines_nil _
    | exact Reads.text _ _
    | refine Reads.value_cons ?_ ?_ ?_
    | refine Calm.wrapped ?_ ?_
    | refine Calm.lines_cons ?_ ?_
    | refine Calm.line_cons ?_ ?_
    | refine Calm.markup_append ?_ ?_
    | refine Reads.markup ?_
  all_goals decide +kernel

end ApprovalDesk
