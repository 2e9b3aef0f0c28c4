import ApprovalDesk.Config
import ApprovalDesk.Mail.Letters
import ApprovalDesk.Proofs.Html.Slots
import ApprovalDesk.Time.Instant

/-!
# The configured validity

A configuration that can be read has a validity of whole days, of which there are at least one and at
most ten years' worth. The letter about a new request names their number, and a token that is minted no
later than that many days before the end of the calendar can be checked at any time.
-/

namespace ApprovalDesk

set_option autoImplicit false

open ApprovalDesk.Text ApprovalDesk.Time

namespace Config

variable {env : Environment} {c : Config}

theorem range_of_ttlDays {days : Int} (read : ttlDays env = .ok days) :
    1 ≤ days ∧ days ≤ maxTtlDays := by
  have checked (found : Int) (passed :
      (if 1 ≤ found ∧ found ≤ maxTtlDays then pure found else .error (.ttlOutOfRange found)) =
        (.ok days : Except Error Int)) : 1 ≤ days ∧ days ≤ maxTtlDays := by
    split at passed
    · next range =>
      cases passed
      exact range
    · cases passed
  unfold ttlDays at read
  dsimp only at read
  split at read
  · exact checked defaultTtlDays read
  · cases read
  · cases read
  · split at read
    · next n _ => exact checked n read
    · cases read

theorem ttlDays_of_ofEnvironment (configured : ofEnvironment env = .ok c) :
    ttlDays env = .ok c.tokenTtlDays := by
  have passed {α : Type} {x : Except Error α} {f : α → Except Error Config}
      (ended : (x >>= f) = .ok c) : ∃ a, x = .ok a ∧ f a = .ok c := by
    cases x with
    | error e => cases ended
    | ok a => exact ⟨a, rfl, ended⟩
  unfold ofEnvironment at configured
  obtain ⟨days, read, configured⟩ := passed configured
  obtain ⟨_, -, configured⟩ := passed configured
  obtain ⟨_, -, configured⟩ := passed configured
  obtain ⟨_, -, configured⟩ := passed configured
  obtain ⟨_, -, configured⟩ := passed configured
  cases configured
  exact read

/-- The validity of the workflow is the configured one. -/
theorem ttlDays_settings (c : Config) : c.settings.ttlDays = c.tokenTtlDays :=
  Int.mul_tdiv_cancel _ (by decide)

/-- The latest time at which a token can be minted that is valid for the longest time. -/
def latestMint : Instant := ⟨Instant.lastSecond - maxTtlDays * 86400, 999999999⟩

end Config

namespace Time.Instant

/-- What needs no carrying has a value within the calendar. -/
theorem isSome_carry {second nano : Int} (least : 0 ≤ nano) (small : nano < 1000000000)
    (inside : inCalendar second = true) : (carry second nano).isSome = true := by
  have noBorrow : ¬ nano < 0 := by omega
  have noCarry : ¬ nano ≥ 1000000000 := by omega
  simp only [carry, if_neg noBorrow, if_neg noCarry, inside, if_true, Option.isSome_some]

/-- Some days later there still is a calendar. -/
theorem isSome_addMillis_days {t : Instant} {days : Int} (valid : t.Valid)
    (early : t.isAfter Config.latestMint = false) (some : 1 ≤ days) (few : days ≤ Config.maxTtlDays) :
    (t.addMillis (days * 86400000)).isSome = true := by
  have parts : days * 86400000 = days * 86400 * 1000 := by omega
  have seconds : wholeSeconds (days * 86400000) = days * 86400 := by
    rw [parts, wholeSeconds, Int.mul_tdiv_cancel _ (by decide)]
  have nanos : restNanos (days * 86400000) = 0 := by
    rw [parts, restNanos, Int.mul_tmod_left, Int.zero_mul]
  obtain ⟨inside, small⟩ := valid
  have range : firstSecond ≤ t.second + days * 86400 ∧ t.second + days * 86400 ≤ lastSecond := by
    simp only [inCalendar, Bool.and_eq_true, decide_eq_true_eq] at inside
    have before : ¬ Config.latestMint.second < t.second :=
      decide_eq_false_iff_not.1 (Bool.or_eq_false_iff.1 early).1
    unfold Config.latestMint at before
    dsimp only at before
    unfold Config.maxTtlDays at few before
    omega
  have later : inCalendar (t.second + days * 86400) = true := by
    simp only [inCalendar, Bool.and_eq_true, decide_eq_true_eq]
    exact range
  unfold addMillis
  rw [seconds, nanos]
  dsimp only
  by_cases leap : t.nano ≥ 1000000000
  · rw [if_pos leap, if_pos (by simp; omega)]
    exact isSome_carry (by omega) (by omega) later
  · rw [if_neg leap]
    exact isSome_carry (by omega) (by omega) later

end Time.Instant

namespace Letter

/-- The letter about a new request says for how many days its links are valid. -/
theorem newRequest_names_ttlDays {s : Settings} {r : Request} {token : String} {year : Int}
    {letter : Letter} (made : newRequest s r token year = .ok letter) :
    ("These links are valid for " ++ Decimal.intText s.ttlDays ++ " days").toList <:+:
      letter.html.toList := by
  have plain : Html.escape (Decimal.intText s.ttlDays) = (Decimal.intText s.ttlDays).toList := by
    refine Html.escape_of_plain fun c member => ?_
    rw [Decimal.intText, String.toList_ofList] at member
    have digits (n : Nat) : ∀ c ∈ Decimal.ofNat n, Html.escapeChar c = [c] :=
      Decimal.forall_mem_ofNat (by decide) n
    cases kind : s.ttlDays with
    | ofNat n =>
      rw [kind] at member
      exact digits n c member
    | negSucc n =>
      rw [kind] at member
      rcases List.mem_cons.1 member with rfl | inside
      · rfl
      · exact digits (n + 1) c inside
  unfold newRequest at made
  cases links : ApprovalLinks.make s.publicBaseUrl r.id token with
  | error e =>
    rw [links] at made
    cases made
  | ok pair =>
    rw [links] at made
    cases made
    rw [Html.write, String.toList_ofList]
    refine List.IsInfix.trans ?_ (Html.infix_of_line (l := ["      These links are valid for ",
      .text (Decimal.intText s.ttlDays), " days and can be used only once."]) ?_)
    · refine ⟨"      ".toList, " and can be used only once.".toList, ?_⟩
      simp only [Html.lineChars, List.flatMap_cons, List.flatMap_nil, Html.Piece.chars, plain]
      simp
    · simp [NewRequest.lines, NewRequest.body, NewRequest.links, Html.document]

end Letter

end ApprovalDesk
