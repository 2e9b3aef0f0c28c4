import ApprovalDesk.Proofs.Html.Addresses
import ApprovalDesk.Proofs.Url.Harmless

/-!
# The link to the proof of purchase

The proof of purchase is whatever the user has given for its address. The letter about a new request only
links to it if that is, blanks around it apart, an absolute URL of the web, and then to the URL as it was
read and not to the text as it was given. So the address of the link is harmless.
-/

namespace ApprovalDesk

set_option autoImplicit false

open ApprovalDesk.Text

/-- What a user supplied is an absolute URL of the web, blanks around it apart. -/
structure Supplies (supplied : Option String) (u : Url) : Prop where
  read : ∃ s, supplied = some s ∧ Url.read (trim s) = .ok u
  web : u.isWeb = true

theorem safeHref_of_read {s : String} {u : Url} (read : Url.read (trim s) = .ok u)
    (web : u.isWeb = true) : safeHref (some s) = u.write := by
  rw [safeHref, Option.map_some, read]
  exact if_pos web

/-- A link to what a user supplied leads to the URL of the web that it is, or nowhere. -/
theorem safeHref_cases (supplied : Option String) :
    (∃ u, Supplies supplied u ∧ safeHref supplied = u.write) ∨
      safeHref supplied = "#" ∧ ∀ u, ¬ Supplies supplied u := by
  cases supplied with
  | none => exact Or.inr ⟨rfl, fun u ⟨⟨s, given, _⟩, _⟩ => by cases given⟩
  | some s =>
    have same {u : Url} (supplies : Supplies (some s) u) : Url.read (trim s) = .ok u := by
      obtain ⟨_, given, read⟩ := supplies.read
      cases given
      exact read
    cases read : Url.read (trim s) with
    | error e =>
      refine Or.inr ⟨by rw [safeHref, Option.map_some, read], fun u supplies => ?_⟩
      rw [same supplies] at read
      cases read
    | ok u =>
      cases web : u.isWeb with
      | true => exact Or.inl ⟨u, ⟨⟨s, rfl, read⟩, web⟩, safeHref_of_read read web⟩
      | false =>
        refine Or.inr ⟨?_, fun v supplies => ?_⟩
        · rw [safeHref, Option.map_some, read]
          exact if_neg (by simp [web])
        · rw [same supplies] at read
          cases read
          rw [supplies.web] at web
          cases web

namespace Letter

/-- The links that a reader finds in the letter about a new request. -/
theorem links_of_newRequest {s : Settings} {r : Request} {token : String} {year : Int} {letter : Letter}
    (written : newRequest s r token year = .ok letter) : ∃ approve reject,
      Html.attributeValues "href" letter.html = [safeHref r.proofFileUrl, approve, reject] := by
  unfold newRequest at written
  split at written
  · cases written
  · cases written
    exact ⟨_, _, attributeValues_write (NewRequest.reads_lines _)⟩

/-- **The proof link is harmless**, whatever the user has given for the address of the proof. A reader of
the letter finds it as the first of its three links. If what was given is an absolute URL of the web, the
link leads to that URL: the address begins with its scheme, consists of visible ASCII without angle
brackets, and has a quotation mark, if any, only in the host. Otherwise the address is `#`. -/
theorem proof_link_is_harmless {s : Settings} {r : Request} {token : String} {year : Int}
    {letter : Letter} (written : newRequest s r token year = .ok letter) :
    ∃ proof approve reject, Html.attributeValues "href" letter.html = [proof, approve, reject] ∧
      ((∃ u, Supplies r.proofFileUrl u ∧ proof = u.write ∧ Url.Harmless proof.toList) ∨
        proof = "#" ∧ ∀ u, ¬ Supplies r.proofFileUrl u) := by
  obtain ⟨approve, reject, links⟩ := links_of_newRequest written
  refine ⟨_, approve, reject, links, (safeHref_cases r.proofFileUrl).imp_left ?_⟩
  rintro ⟨u, supplies, href⟩
  refine ⟨u, supplies, href, ?_⟩
  obtain ⟨text, -, read⟩ := supplies.read
  rw [href, Url.write, String.toList_ofList]
  exact Url.harmless_readChars read supplies.web

/-- The settings of a desk under `https://h`. -/
def deskOfH : Settings := ⟨"desk@example.org", "admin@example.org", 604800000, "https://h", none⟩

/-- Ann's request with this text for the address of her proof of purchase. -/
def annsProof (text : String) : Request :=
  Request.new "r1" ⟨"u1", "Ann", "ann@example.org", none, some text⟩ ⟨0, 0⟩

/-- The letter about Ann's request can be written, whatever her proof of purchase is. -/
theorem newRequest_annsProof (text : String) :
    ∃ letter, newRequest deskOfH (annsProof text) "abc" 1970 = .ok letter := by
  obtain ⟨links, made⟩ : ∃ links, ApprovalLinks.make "https://h" "r1" "abc" = .ok links := ⟨_, rfl⟩
  have made : ApprovalLinks.make deskOfH.publicBaseUrl (annsProof text).id "abc" = .ok links := made
  exact ⟨_, by rw [newRequest, made]⟩

/-- A URL of the web without user name, port, query and fragment. -/
def plainUrl (scheme host path : String) : Url where
  scheme := scheme.toList
  authority := some ⟨[], none, .name host.toList, none⟩
  dotted := false
  path := path.toList
  query := none
  fragment := none

/-- Ann's proof of purchase is linked, although a blank stands before the scheme and a tab inside it. -/
theorem anns_proof_is_linked : ∃ letter,
    newRequest deskOfH (annsProof " HT\tTP://x.org/<b>\n") "abc" 1970 = .ok letter ∧
    ∃ proof approve reject, Html.attributeValues "href" letter.html = [proof, approve, reject] ∧
      proof = "http://x.org/%3Cb%3E" ∧ Url.Harmless proof.toList := by
  have read : Url.read (trim " HT\tTP://x.org/<b>\n") = .ok (plainUrl "http" "x.org" "/%3Cb%3E") := rfl
  obtain ⟨letter, written⟩ := newRequest_annsProof " HT\tTP://x.org/<b>\n"
  obtain ⟨proof, approve, reject, links, ⟨u, supplies, href, harmless⟩ | ⟨-, nowhere⟩⟩ :=
    proof_link_is_harmless written
  · refine ⟨letter, written, proof, approve, reject, links, ?_, harmless⟩
    obtain ⟨text, given, found⟩ := supplies.read
    cases given
    rw [read] at found
    cases found
    rw [href]
    decide +kernel
  · exact absurd ⟨⟨_, rfl, read⟩, rfl⟩ (nowhere _)

/-- A quotation mark in the host stays there, since a host may have one. -/
theorem quotation_mark_in_host : ¬ ∀ (s : Settings) (r : Request) (token : String) (year : Int)
    (letter : Letter), newRequest s r token year = .ok letter →
      ∃ proof approve reject, Html.attributeValues "href" letter.html = [proof, approve, reject] ∧
        (proof = "#" ∨
          ("http://".toList <+: proof.toList ∨ "https://".toList <+: proof.toList) ∧
            ∀ c ∈ proof.toList, isBlank c = false ∧ 0x20 ≤ c.toNat ∧ ¬ (0x7F ≤ c.toNat ∧ c.toNat < 0xA0) ∧
              c ≠ '"' ∧ c ≠ '<' ∧ c ≠ '>') := by
  intro unquoted
  have read : Url.read (trim "http://a\"b/") = .ok (plainUrl "http" "a\"b" "/") := rfl
  have href : safeHref (annsProof "http://a\"b/").proofFileUrl = "http://a\"b/" := by
    rw [annsProof, Request.new, safeHref_of_read read rfl]
    decide +kernel
  obtain ⟨letter, written⟩ := newRequest_annsProof "http://a\"b/"
  obtain ⟨approve, reject, links⟩ := links_of_newRequest written
  obtain ⟨proof, approve', reject', links', harmless⟩ := unquoted _ _ _ _ letter written
  rw [links, href] at links'
  cases links'
  rcases harmless with none | ⟨-, each⟩
  · exact absurd none (by decide)
  · exact (each '"' (by decide)).2.2.2.1 rfl

end Letter

end ApprovalDesk
