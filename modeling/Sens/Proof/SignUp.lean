import Sens.Purpose.SignUp

/-!
# The sign-up form

* `validateFields_eq_none_iff`: what the form checks.
* `submits_iff`: a form that is accepted reaches the account service, with all that it
  says, just when its date is one.
* `isPasswordValid_iff`: what the pattern for passwords means.
* `accepts_policy_iff`: when the form keeps to the policy that it states.
-/

namespace Sens

namespace SingUpViewController

variable {F : Foundation} {form : SingUpViewController} {σ : Type}

/-! ## What is submitted -/

theorem trimmingCharacters_neat {t : String} (h : trimmingCharacters t ≠ "") :
    Neat (trimmingCharacters t) where
  ne_empty := h
  bare := by
    rw [trimmingCharacters, String.toList_ofList]
    exact Trim.trim_bare

/-- **What the form checks**: the texts, and the password; nothing about the date. -/
theorem validateFields_eq_none_iff : form.validateFields F = none ↔
    (∀ t ∈ form.required, trimmingCharacters t ≠ "") ∧
      isPasswordValid F (trimmingCharacters form.passwordTextField) = true := by
  unfold validateFields
  split_ifs with hblank hvalid
  · simp only [required, List.forall_mem_cons]
    constructor
    · intro h
      cases h
    · rintro ⟨⟨h1, h2, h3, h4, -⟩, -⟩
      rcases hblank with h | h | h | h
      · exact absurd h h1
      · exact absurd h h2
      · exact absurd h h3
      · exact absurd h h4
  · simp [hvalid]
  · rw [not_or, not_or, not_or] at hblank
    simp [required, hblank, hvalid]

theorem signInButton_of_invalid {error : String} (h : form.validateFields F = some error) (s : σ) :
    (form.signInButton F).run s = .ok none s := by
  unfold signInButton
  rw [h]; rfl

theorem signInButton_of_date (h : form.validateFields F = none) {date : Date}
    (hd : F.date form.dateTextField = some date) (s : σ) :
    ∃ call, form.Submits F call ∧ (form.signInButton F).run s = .ok (some call) s := by
  have hneat : ∀ t ∈ form.required, Neat (trimmingCharacters t) := fun t ht =>
    trimmingCharacters_neat ((validateFields_eq_none_iff.1 h).1 t ht)
  unfold signInButton
  rw [h]
  simp only [hd, User.email, User.password, EStateM.run_bind, Swift.run_unwrap_some]
  exact ⟨_, ⟨hneat, rfl, rfl, rfl, rfl, date, hd, rfl⟩, rfl⟩

theorem signInButton_of_no_date (h : form.validateFields F = none)
    (hd : F.date form.dateTextField = none) (s : σ) :
    (form.signInButton F).run s = .error .unexpectedNil s := by
  unfold signInButton
  rw [h]
  simp only [hd, EStateM.run_bind, Swift.run_unwrap_none]

/-- A call that is made says what the form says. -/
theorem submits_of_ok {call : CreateUser} {s s' : σ}
    (h : (form.signInButton F).run s = .ok (some call) s') : form.Submits F call := by
  cases hv : form.validateFields F with
  | some error => rw [signInButton_of_invalid hv] at h; cases h
  | none =>
    cases hd : F.date form.dateTextField with
    | none => rw [signInButton_of_no_date hv hd] at h; cases h
    | some date =>
      obtain ⟨call', hcall, hrun⟩ := signInButton_of_date hv hd s
      rw [hrun] at h
      cases h
      exact hcall

/-- **A form submits all that it says, or nothing**, just when it is rejected or its date
is one. -/
theorem submits_iff (F : Foundation) (form : SingUpViewController) (s : σ) :
    ((form.validateFields F = none →
        ∃ call, form.Submits F call ∧ (form.signInButton F).run s = .ok (some call) s) ∧
      ∀ error, form.validateFields F = some error → (form.signInButton F).run s = .ok none s) ↔
    (form.validateFields F = none → (F.date form.dateTextField).isSome = true) := by
  constructor
  · rintro ⟨hsub, -⟩ hvalid
    obtain ⟨call, hcall, -⟩ := hsub hvalid
    obtain ⟨date, hd, -⟩ := hcall.birthDate
    rw [hd]; rfl
  · intro hdate
    refine ⟨fun hvalid => ?_, fun error herror => signInButton_of_invalid herror s⟩
    obtain ⟨date, hd⟩ := Option.isSome_iff_exists.1 (hdate hvalid)
    exact signInButton_of_date hvalid hd s

/-- A form that is accepted without a date traps. -/
theorem empty_date_traps : ¬ ∀ form : SingUpViewController, form.validateFields .ascii = none →
    ∃ call, form.Submits .ascii call ∧
      (form.signInButton .ascii).run () = .ok (some call) () := by
  intro h
  obtain ⟨call, hcall, -⟩ := h ⟨"ana", "lima", "ana@sens", "abcdef1$", ""⟩ (by decide +kernel)
  obtain ⟨date, hd, -⟩ := hcall.birthDate
  cases hd

/-! ## Passwords -/

theorem anyCharacter_of_printable {c : Char} (h1 : 0x20 ≤ c.toNat) (h2 : c.toNat ≤ 0x7E) :
    anyCharacter c = true := by
  simp only [anyCharacter, Bool.not_eq_true', Bool.or_eq_false_iff, Bool.and_eq_false_iff,
    decide_eq_false_iff_not, beq_eq_false_iff_ne]
  omega

/-- The special characters of the pattern are those of the policy. -/
theorem specialCharacter_eq : specialCharacter = special := by
  have hlist : "$@$#!%*?&".toList = ['$', '@', '$', '#', '!', '%', '*', '?', '&'] := by decide +kernel
  funext c
  rw [Bool.eq_iff_iff, specialCharacter, hlist, List.contains_iff_mem, special, decide_eq_true_eq]
  simp only [List.mem_cons, List.not_mem_nil, or_false]
  tauto

theorem isAlpha_iff {c : Char} :
    c.isAlpha = true ↔ ('A' ≤ c ∧ c ≤ 'Z') ∨ ('a' ≤ c ∧ c ≤ 'z') := by
  have hletter : c.isAlpha = (decide ('A' ≤ c ∧ c ≤ 'Z') || ('a' ≤ c && c ≤ 'z')) := rfl
  rw [hletter]
  simp

/-- The characters of the pattern are those of a password. -/
theorem passwordCharacter_iff {c : Char} : passwordCharacter F c = true ↔
    c.isAlpha = true ∨ F.decimalDigit c = true ∨ special c = true := by
  simp only [passwordCharacter, specialCharacter_eq, isAlpha_iff, Bool.or_eq_true, Bool.and_eq_true,
    decide_eq_true_eq, or_assoc]

/-- No line break is a letter or a special character. -/
theorem anyCharacter_of_password (hdigit : ∀ c, F.decimalDigit c = true → anyCharacter c = true) {c : Char}
    (hc : c.isAlpha = true ∨ F.decimalDigit c = true ∨ special c = true) : anyCharacter c = true := by
  rcases hc with hletter | hd | hs
  · rcases isAlpha_iff.1 hletter with ⟨h1, h2⟩ | ⟨h1, h2⟩
    · have h1 : 65 ≤ c.toNat := h1
      have h2 : c.toNat ≤ 90 := h2
      exact anyCharacter_of_printable (by omega) (by omega)
    · have h1 : 97 ≤ c.toNat := h1
      have h2 : c.toNat ≤ 122 := h2
      exact anyCharacter_of_printable (by omega) (by omega)
  · exact hdigit c hd
  · have hall : ['@', '$', '#', '!', '%', '*', '?', '&'].all anyCharacter = true := by decide
    exact List.all_eq_true.1 hall c (of_decide_eq_true hs)

/-- **What the pattern means**, where digits are no line breaks: a lower-case letter, not a
number. -/
theorem isPasswordValid_iff (hdigit : ∀ c, F.decimalDigit c = true → anyCharacter c = true)
    (t : String) : isPasswordValid F t = true ↔
      PasswordText F t ∧ 8 ≤ t.toList.length ∧ Contains special t ∧ Contains lowercaseLetter t := by
  unfold isPasswordValid passwordPattern
  rw [Regex.matchesAll_iff, Regex.matches_seq_ahead, Regex.matches_seq_ahead, Regex.matches_atLeast,
    specialCharacter_eq]
  simp only [passwordCharacter_iff]
  constructor
  · rintro ⟨hlower, hspecial, hlength, htext⟩
    have hany : ∀ c ∈ t.toList ++ [], anyCharacter c = true := fun c hc =>
      anyCharacter_of_password hdigit (htext c (by simpa using hc))
    rw [Regex.matches_ahead_contains hany] at hlower hspecial
    simp only [List.append_nil] at hlower hspecial
    exact ⟨htext, hlength, hspecial, hlower⟩
  · rintro ⟨htext, hlength, hspecial, hlower⟩
    have hany : ∀ c ∈ t.toList ++ [], anyCharacter c = true := fun c hc =>
      anyCharacter_of_password hdigit (htext c (by simpa using hc))
    rw [Regex.matches_ahead_contains hany, Regex.matches_ahead_contains hany]
    simp only [List.append_nil]
    exact ⟨hlower, hspecial, hlength, htext⟩

/-- **When the form keeps to its policy**, with the other fields filled in: for a text of
letters, digits and special characters that is long enough and has a special character,
just when a lower-case letter is there exactly if a number is. -/
theorem accepts_policy_iff (hdigit : ∀ c, F.decimalDigit c = true → anyCharacter c = true) {t : String}
    (ht : t = trimmingCharacters form.passwordTextField)
    (hfirst : trimmingCharacters form.firstName ≠ "") (hlast : trimmingCharacters form.lastName ≠ "")
    (hemail : trimmingCharacters form.emailTextField ≠ "") :
    ((form.validateFields F = none → PasswordPolicy F t) ∧
      (PasswordText F t → PasswordPolicy F t → form.validateFields F = none)) ↔
    (PasswordText F t → 8 ≤ t.toList.length → Contains special t →
      (Contains lowercaseLetter t ↔ Contains F.decimalDigit t)) := by
  have haccept : form.validateFields F = none ↔
      PasswordText F t ∧ 8 ≤ t.toList.length ∧ Contains special t ∧
        Contains lowercaseLetter t := by
    rw [validateFields_eq_none_iff, ← ht, isPasswordValid_iff hdigit]
    -- a valid password is not blank
    refine and_iff_right_of_imp ?_
    rintro ⟨-, hlength, -⟩
    have hne : t ≠ "" := by
      rintro rfl
      exact absurd hlength (by decide)
    simp [required, hfirst, hlast, hemail, ← ht, hne]
  rw [haccept]
  constructor
  · rintro ⟨hsound, hcomplete⟩ htext hlength hspecial
    constructor
    · intro hlower
      exact (hsound ⟨htext, hlength, hspecial, hlower⟩).number
    · intro hnumber
      exact (hcomplete htext ⟨hlength, hspecial, hnumber⟩).2.2.2
  · intro h
    constructor
    · rintro ⟨htext, hlength, hspecial, hlower⟩
      exact ⟨hlength, hspecial, (h htext hlength hspecial).1 hlower⟩
    · rintro htext ⟨hlength, hspecial, hnumber⟩
      exact ⟨htext, hlength, hspecial, (h htext hlength hspecial).2 hnumber⟩

/-- A password with a lower-case letter and a number, typed with blanks around it. -/
theorem abcdef1_accepted : SingUpViewController.validateFields .ascii
    ⟨"ana", "lima", "ana@sens", " abcdef1$ ", ""⟩ = none := by
  have hdigit : ∀ c : Char, c.isDigit = true → anyCharacter c = true := by
    intro c hc
    simp only [Char.isDigit, Bool.and_eq_true, decide_eq_true_eq] at hc
    exact anyCharacter_of_printable (le_trans (by decide) hc.1) (le_trans hc.2 (by decide))
  refine ((@accepts_policy_iff .ascii ⟨"ana", "lima", "ana@sens", " abcdef1$ ", ""⟩ hdigit "abcdef1$"
    (by decide +kernel) (by decide +kernel) (by decide +kernel) (by decide +kernel)).2 ?_).2 ?_ ?_
  · intro _ _ _
    exact iff_of_true ⟨'a', by decide, by decide⟩ ⟨'1', by decide, by decide⟩
  · have hall : "abcdef1$".toList.all
        (fun c => c.isAlpha = true ∨ c.isDigit = true ∨ special c = true) = true := by decide
    exact fun c hc => of_decide_eq_true (List.all_eq_true.1 hall c hc)
  · exact ⟨by decide +kernel, ⟨'$', by decide, by decide⟩, ⟨'1', by decide, by decide⟩⟩

/-- A password without a number is accepted. -/
theorem abcdefg_accepted_without_number : ¬ ∀ form : SingUpViewController,
    form.validateFields .ascii = none →
    PasswordPolicy .ascii (trimmingCharacters form.passwordTextField) := by
  intro h
  obtain ⟨c, hc, hnumber⟩ :=
    (h ⟨"ana", "lima", "ana@sens", "abcdefg$", ""⟩ (by decide +kernel)).number
  have hnone : (trimmingCharacters "abcdefg$").toList.all (fun c => !c.isDigit) = true := by
    decide +kernel
  have hnot := List.all_eq_true.1 hnone c hc
  have hdigit : c.isDigit = true := hnumber
  rw [hdigit] at hnot
  cases hnot

end SingUpViewController

end Sens
