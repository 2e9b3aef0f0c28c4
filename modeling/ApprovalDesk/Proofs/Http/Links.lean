import ApprovalDesk.Proofs.Html.Addresses
import ApprovalDesk.Proofs.Http.Targets
import ApprovalDesk.Proofs.Text.FormPairs

/-!
# The pair that a link carries

A link below a base names a request and a token in its query, after the pairs that the base has itself.
Whoever follows the link, or sends the form, hands over exactly these two, whatever characters they
consist of, unless the base names one of them in its own query.
-/

namespace ApprovalDesk

set_option autoImplicit false

open Text

/-- The pairs in the query of a URL. -/
def Url.pairs (u : Url) : List (String × String) :=
  FormPairs.decode (Utf8.encodeChars (u.query.getD []))

namespace Http

/-- What the handlers of the links read from the query of a request. -/
def Request.Gives (r : Request) (id token : String) : Prop :=
  ∃ params, LinkParams.ofPairs (FormPairs.decode r.query) = .ok params ∧
    params.require = .ok (id, token)

namespace LinkParams

theorem firstRepeated_eq_none {own : List String} (free : ∀ n ∈ own, n ∉ names) {seen : List String}
    (unnamed : ∀ n ∈ seen, n ∉ names) : firstRepeated names seen (own ++ names) = none := by
  induction own generalizing seen with
  | nil =>
    have requestId : "requestId" ∉ seen := fun member => unnamed _ member (by decide)
    have token : "token" ∉ seen := fun member => unnamed _ member (by decide)
    simp [firstRepeated, names, requestId, token]
  | cons n own ih =>
    obtain ⟨own_free, rest⟩ := List.forall_mem_cons.1 free
    have other : names.contains n = false := Bool.eq_false_iff.2 fun named =>
      own_free (List.contains_iff_mem.1 named)
    rw [List.cons_append, firstRepeated, other, Bool.false_and, if_neg Bool.false_ne_true]
    exact ih rest (List.forall_mem_cons.2 ⟨own_free, unnamed⟩)

theorem lookup_append_of_free {own : List (String × String)} {name : String}
    (free : ∀ p ∈ own, p.1 ≠ name) (more : List (String × String)) :
    (own ++ more).lookup name = more.lookup name := by
  induction own with
  | nil => rfl
  | cons p own ih =>
    obtain ⟨own_free, rest⟩ := List.forall_mem_cons.1 free
    rw [List.cons_append, List.lookup_cons, beq_false_of_ne own_free.symm, ih rest]

/-- The pair of a link is found after pairs of other names. -/
theorem ofPairs_append {own : List (String × String)} (free : ∀ p ∈ own, p.1 ∉ names)
    (id token : String) : ofPairs (own ++ linkPairs id token) = .ok ⟨some id, some token⟩ := by
  have noRepeat : firstRepeated names [] ((own ++ linkPairs id token).map (·.1)) = none := by
    rw [List.map_append]
    refine firstRepeated_eq_none (fun n member => ?_) (by simp)
    obtain ⟨p, own_member, rfl⟩ := List.mem_map.1 member
    exact free p own_member
  have other {name : String} (named : name ∈ names) : ∀ p ∈ own, p.1 ≠ name := fun p member same =>
    free p member (same ▸ named)
  rw [ofPairs, noRepeat]
  dsimp only
  rw [lookup_append_of_free (other (by decide)), lookup_append_of_free (other (by decide))]
  rfl

end LinkParams

variable {id token : String}

theorem gives_of_pairs {r : Request} (id_given : isBlankText id = false)
    (token_given : isBlankText token = false) {own : List (String × String)}
    (free : ∀ p ∈ own, p.1 ∉ LinkParams.names)
    (query : FormPairs.decode r.query = own ++ linkPairs id token) : r.Gives id token := by
  refine ⟨⟨some id, some token⟩, ?_, LinkParams.require_eq_ok_iff.2 ⟨rfl, id_given, token_given⟩⟩
  rw [query]
  exact LinkParams.ofPairs_append free id token

end Http

namespace ApprovalLinks

open Http

variable {base : Url} {endpoint : String}

/-- The link to an endpoint below a base of the web. -/
def below (base : Url) (endpoint : String) (pairs : List (String × String)) : Url :=
  { base with
    path := dropEndSlashes base.path ++ '/' :: endpoint.toList
    query := some (pairs.foldl FormPairs.append (base.query.getD [])) }

theorem settled_endpoint (known : endpoint ∈ [approveEndpoint, rejectEndpoint]) :
    Url.Settled endpoint.toList := by
  rcases List.mem_cons.1 known with rfl | rejects
  · exact .of_all (by decide) (by decide) (by decide)
  · rw [List.mem_singleton.1 rejects]
    exact .of_all (by decide) (by decide) (by decide)

theorem link_eq (clear : base.Clear) (known : endpoint ∈ [approveEndpoint, rejectEndpoint])
    (id token : String) :
    link base endpoint id token = below base endpoint (linkPairs id token) := by
  obtain ⟨a, authority, -⟩ := clear.authority
  rw [link, Url.withPath_settled clear.web (by rw [authority]; rfl)
    (clear.path.extend (settled_endpoint known))]
  rfl

theorem clear_below (clear : base.Clear) (known : endpoint ∈ [approveEndpoint, rejectEndpoint])
    (pairs : List (String × String)) : (below base endpoint pairs).Clear where
  web := clear.web
  authority := clear.authority
  path := clear.path.extend (settled_endpoint known)
  query := by
    rintro q ⟨⟩ member
    rcases FormPairs.used_of_mem_foldl_append member with own | used
    · cases given : base.query with
      | none =>
        rw [given] at own
        cases own
      | some q =>
        rw [given] at own
        exact clear.query q given own
    · cases used

/-- The two links differ only in the endpoint. -/
theorem make_eq {baseUrl : String} (read : Url.readChars (dropEndSlashes baseUrl.toList) = .ok base)
    (clear : base.Clear) (id token : String) : make baseUrl id token = .ok {
      approve := below base approveEndpoint (linkPairs id token)
      reject := below base rejectEndpoint (linkPairs id token) } := by
  rw [make, read, ← link_eq clear (by decide) id token, ← link_eq clear (by decide) id token]
  rfl

theorem pairs_below (base : Url) (endpoint : String) (pairs : List (String × String)) :
    (below base endpoint pairs).pairs = base.pairs ++ pairs :=
  FormPairs.decode_foldl_append pairs (base.query.getD [])

end ApprovalLinks

namespace Http

/-- A request whose target is a URL, as a whole or without scheme and host. -/
def Request.Targets (r : Request) (u : Url) : Prop := r.target = u.write ∨ r.target.toList = u.resource

/-- A request whose target is an address relative to a folder. -/
def Request.TargetsBelow (r : Request) (address : String) : Prop :=
  ∃ folder, '?' ∉ folder ∧ '#' ∉ folder ∧ r.target.toList = '/' :: folder ++ address.toList

theorem Request.query_of_targets {r : Request} {u : Url} (clear : u.Clear) (follows : r.Targets u) :
    FormPairs.decode r.query = u.pairs := by
  rcases follows with whole | place
  · rw [query_eq clear (localTarget_write clear whole), Url.pairs]
  · rw [query_eq clear (localTarget_resource clear place), Url.pairs]

/-- What a request for the address of the form hands over. -/
theorem Request.query_of_form {request : ApprovalDesk.Request} {token : String} {r : Request}
    (follows : r.TargetsBelow (RejectionForm.of request token).action) :
    FormPairs.decode r.query = linkPairs request.id token := by
  obtain ⟨folder, noQuery, noFragment, target⟩ := follows
  have encoded : '#' ∉ FormPairs.encode (linkPairs request.id token) := fun member => by
    rcases FormPairs.used_of_mem_foldl_append member with inside | used
    · cases inside
    · cases used
  have parts : r.target.toList = '/' :: (folder ++ ApprovalLinks.rejectEndpoint.toList ++
      '?' :: FormPairs.encode (linkPairs request.id token)) := by
    rw [target, RejectionForm.of]
    simp
  have noMark : '#' ∉ '/' :: (folder ++ ApprovalLinks.rejectEndpoint.toList ++
      '?' :: FormPairs.encode (linkPairs request.id token)) := by
    simp only [List.mem_cons, List.mem_append, not_or]
    exact ⟨by decide, ⟨noFragment, by decide⟩, by decide, encoded⟩
  have before : '?' ∉ '/' :: (folder ++ ApprovalLinks.rejectEndpoint.toList) := by
    simp only [List.mem_cons, List.mem_append, not_or]
    exact ⟨by decide, noQuery, by decide⟩
  have whole : r.localTarget = ('/' :: (folder ++ ApprovalLinks.rejectEndpoint.toList)) ++
      (some (FormPairs.encode (linkPairs request.id token))).elim [] ('?' :: ·) := by
    rw [localTarget_of_slash noMark parts, Option.elim_some, List.cons_append]
  rw [query_of_localTarget before whole]
  exact FormPairs.decode_foldl_append _ []

/-! ## Links, form and letter -/

/-- **A link carries its pair.** -/
theorem links_carry_their_pair {id token : String} (id_given : isBlankText id = false)
    (token_given : isBlankText token = false) :
    (∀ (baseUrl : String) (base : Url), Url.readChars (dropEndSlashes baseUrl.toList) = .ok base →
      base.isWeb = true → (∀ p ∈ base.pairs, p.1 ∉ LinkParams.names) →
      ∃ links, ApprovalLinks.make baseUrl id token = .ok links ∧
        links.approve = ApprovalLinks.below base ApprovalLinks.approveEndpoint (linkPairs id token) ∧
        links.reject = ApprovalLinks.below base ApprovalLinks.rejectEndpoint (linkPairs id token) ∧
        ∀ link ∈ [links.approve, links.reject], ∀ r : Request, r.Targets link → r.Gives id token) ∧
    (∀ (request : ApprovalDesk.Request) (r : Request), request.id = id →
      r.TargetsBelow (RejectionForm.of request token).action → r.Gives id token) ∧
    (∀ (s : Settings) (request : ApprovalDesk.Request) (year : Int) (links : ApprovalLinks),
      request.id = id → ApprovalLinks.make s.publicBaseUrl id token = .ok links →
      ∃ letter, Letter.newRequest s request token year = .ok letter ∧
        Html.attributeValues "href" letter.html =
          [safeHref request.proofFileUrl, links.approve.write, links.reject.write]) ∧
    (∀ request : ApprovalDesk.Request, request.id = id →
      Html.attributeValues "action" (RejectionForm.of request token).write =
        [(RejectionForm.of request token).action]) := by
  refine ⟨fun baseUrl base read web free => ?links, fun request r own follows => ?form,
    fun s request year links own made => ?letter, fun request own => ?action⟩
  case links =>
    have clear := Url.clear_readChars read web
    refine ⟨_, ApprovalLinks.make_eq read clear id token, rfl, rfl, fun link member r follows => ?_⟩
    have given {endpoint : String} (known : endpoint ∈ [ApprovalLinks.approveEndpoint,
        ApprovalLinks.rejectEndpoint])
        (follows : r.Targets (ApprovalLinks.below base endpoint (linkPairs id token))) : r.Gives id token := by
      refine gives_of_pairs id_given token_given free ?_
      rw [Request.query_of_targets (ApprovalLinks.clear_below clear known _) follows,
        ApprovalLinks.pairs_below]
    rcases List.mem_cons.1 member with rfl | rejects
    · exact given (by decide) follows
    · rw [List.mem_singleton.1 rejects] at follows
      exact given (by decide) follows
  case form =>
    have free : ∀ p ∈ ([] : List (String × String)), p.1 ∉ LinkParams.names := by simp
    refine gives_of_pairs id_given token_given free ?_
    rw [Request.query_of_form follows, own, List.nil_append]
  case letter =>
    rw [← own] at made
    refine ⟨_, by rw [Letter.newRequest, made], ?_⟩
    exact attributeValues_write (Letter.NewRequest.reads_lines _)
  case action => exact attributeValues_write (Http.RejectionForm.reads_lines _)

/-- A base with a path, a query and a fragment. -/
def fullBase : Url where
  scheme := "https".toList
  authority := some ⟨[], none, .name ['h'], none⟩
  dotted := false
  path := "/a//".toList
  query := some "x=1".toList
  fragment := some ['f']

theorem links_below_fullBase : Url.readChars (dropEndSlashes "https://h/a//?x=1#f/".toList) = .ok fullBase ∧
    fullBase.isWeb = true ∧ (∀ p ∈ fullBase.pairs, p.1 ∉ LinkParams.names) ∧
    ∃ links, ApprovalLinks.make "https://h/a//?x=1#f/" "r 1&" "t=\u00FC" = .ok links ∧
      ∀ link ∈ [links.approve, links.reject], ∀ r : Request, r.Targets link → r.Gives "r 1&" "t=\u00FC" := by
  have read : Url.readChars (dropEndSlashes "https://h/a//?x=1#f/".toList) = .ok fullBase := rfl
  have free : ∀ p ∈ fullBase.pairs, p.1 ∉ LinkParams.names := by decide +kernel
  obtain ⟨links, -, -⟩ := links_carry_their_pair (show isBlankText "r 1&" = false by decide +kernel)
    (show isBlankText "t=\u00FC" = false by decide +kernel)
  obtain ⟨made, given, -, -, follows⟩ := links _ fullBase read rfl free
  exact ⟨read, rfl, free, made, given, follows⟩

/-- A base whose query ends in a slash. -/
def slashedBase : Url where
  scheme := "http".toList
  authority := some ⟨[], none, .name ['h'], none⟩
  dotted := false
  path := ['/']
  query := some "requestId/".toList
  fragment := none

/-- The slash at the end of a base is dropped even where it belongs to a name in the query, and then the
link names the request twice. -/
theorem dropped_slash_repeats_the_name : Url.read "http://h/?requestId/" = .ok slashedBase ∧
    slashedBase.isWeb = true ∧ (∀ p ∈ slashedBase.pairs, p.1 ∉ LinkParams.names) ∧
    isBlankText "r1" = false ∧ isBlankText "abc" = false ∧
    ∃ links, ApprovalLinks.make "http://h/?requestId/" "r1" "abc" = .ok links ∧
      ∀ r : Request, r.Targets links.approve → ¬ r.Gives "r1" "abc" := by
  have read : Url.readChars (dropEndSlashes "http://h/?requestId/".toList) =
      .ok { slashedBase with query := some "requestId".toList } := rfl
  have clear := Url.clear_readChars read rfl
  refine ⟨rfl, rfl, by decide +kernel, by decide +kernel, by decide +kernel, _,
    ApprovalLinks.make_eq read clear "r1" "abc", fun r follows => ?_⟩
  rintro ⟨params, read, -⟩
  rw [Request.query_of_targets (ApprovalLinks.clear_below clear (by decide) _) follows,
    ApprovalLinks.pairs_below] at read
  have repeated : LinkParams.ofPairs (({ slashedBase with query := some "requestId".toList } : Url).pairs ++
      linkPairs "r1" "abc") = .error "requestId" := rfl
  rw [repeated] at read
  cases read

end Http

end ApprovalDesk
