import Sens.Purpose.Colour
import Sens.Lib.Trim

/-!
# Colours

* `gray_iff`: when `hexStringToUIColor` rejects what is no colour.
* `mem_hexAlphabet`: the characters of hexadecimal digits, and what holds of each.
* `scanHexInt64_of_digits`, `channels`: the scanner on digits, and the bytes of its value.
* `Presents.scannedText_eq`: what is scanned of a presentation.
* `hexStringToUIColor_of_presents`: a presentation of three bytes gives their colour.
-/

namespace Sens

variable {F : Foundation} {s : String} {cs : List Char} {red green blue : UInt8}

/-! ## What is no colour -/

theorem hexStringToUIColor_eq (F : Foundation) (s : String) : hexStringToUIColor F s =
    if F.count (scannedText F s) ≠ 6 then .gray
    else .rgba (((scanHexInt64 (scannedText F s) 0 &&& 0xFF0000) >>> 16).toNat / 255)
      (((scanHexInt64 (scannedText F s) 0 &&& 0x00FF00) >>> 8).toNat / 255)
      ((scanHexInt64 (scannedText F s) 0 &&& 0x0000FF).toNat / 255) 1 := rfl

theorem hexStringToUIColor_eq_gray_iff : hexStringToUIColor F s = .gray ↔ F.count (scannedText F s) ≠ 6 := by
  rw [hexStringToUIColor_eq]
  split_ifs with h <;> simp [h]

/-- **When a text that is no colour is rejected**: the number of characters is all that is
checked. -/
theorem gray_iff (F : Foundation) (s : String) :
    (¬ SixHex (scannedText F s) → hexStringToUIColor F s = .gray) ↔
      SixHex (scannedText F s) ∨ F.count (scannedText F s) ≠ 6 := by
  rw [hexStringToUIColor_eq_gray_iff]
  exact or_iff_not_imp_left.symm

/-- Six letters that are no digits give black. -/
theorem six_letters_are_black : ¬ ∀ s, ¬ SixHex (scannedText .ascii s) →
    hexStringToUIColor .ascii s = .gray := by
  intro h
  have hbad : ¬ SixHex (scannedText .ascii "GGGGGG") := by
    rintro ⟨-, hdigits⟩
    have hg : 'G' ∈ (scannedText .ascii "GGGGGG").toList := by decide +kernel
    exact absurd (hdigits 'G' hg) (by decide)
  exact absurd (h "GGGGGG" hbad) (by decide +kernel)

/-! ## Digits -/

/-- The characters that are hexadecimal digits. -/
def hexAlphabet : List Char := "0123456789ABCDEFabcdef".toList

theorem mem_hexAlphabet {c : Char} (h : (hexDigit c).isSome = true) : c ∈ hexAlphabet := by
  have hcode : c.toNat ∈ List.range' 48 10 ++ List.range' 65 6 ++ List.range' 97 6 := by
    simp only [List.mem_append, List.mem_range'_1]
    unfold hexDigit at h
    split_ifs at h with h1 h2 h3
    · obtain ⟨hl, hr⟩ : 48 ≤ c.toNat ∧ c.toNat ≤ 57 := h1
      omega
    · obtain ⟨hl, hr⟩ : 65 ≤ c.toNat ∧ c.toNat ≤ 70 := h2
      omega
    · obtain ⟨hl, hr⟩ : 97 ≤ c.toNat ∧ c.toNat ≤ 102 := h3
      omega
    · cases h
  have hall : ∀ n ∈ List.range' 48 10 ++ List.range' 65 6 ++ List.range' 97 6,
      Char.ofNat n ∈ hexAlphabet := by decide
  rw [← Char.ofNat_toNat c]
  exact hall _ hcode

/-- What the code relies on in a hexadecimal digit. -/
structure IsDigit (c : Char) : Prop where
  ascii : c.toNat < 128
  toUpper : hexDigit c.toUpper = hexDigit c
  ne : c ≠ '#' ∧ c ≠ 'x' ∧ c ≠ 'X' ∧ c ≠ '\r'
  not_blank : whitespacesAndNewlines c = false

theorem isDigit_of_isSome {c : Char} (h : (hexDigit c).isSome = true) : IsDigit c := by
  have hall : hexAlphabet.all (fun c => c.toNat < 128 ∧ hexDigit c.toUpper = hexDigit c ∧
      (c ≠ '#' ∧ c ≠ 'x' ∧ c ≠ 'X' ∧ c ≠ '\r') ∧ whitespacesAndNewlines c = false) = true := by
    decide
  have hc := List.all_eq_true.1 hall c (mem_hexAlphabet h)
  obtain ⟨h1, h2, h3, h4⟩ := of_decide_eq_true hc
  exact ⟨h1, h2, h3, h4⟩

theorem isSome_of_map_eq {ds : List ℕ} (h : cs.map hexDigit = ds.map some) :
    ∀ c ∈ cs, (hexDigit c).isSome = true := by
  intro c hc
  have hmem : hexDigit c ∈ ds.map some := h ▸ List.mem_map_of_mem hc
  obtain ⟨d, -, hd⟩ := List.mem_map.1 hmem
  rw [← hd]; rfl

/-! ## The scanner -/

/-- The scanner reads a run of digits whole, and the value fits. -/
theorem scanHexDigits_of_digits {ds : List ℕ} (h : cs.map hexDigit = ds.map some) (hne : ds ≠ []) :
    scanHexDigits cs =
      some (UInt64.ofNat (min (ds.foldl (fun v d => 16 * v + d) 0) (2 ^ 64 - 1))) := by
  have htake : (cs.takeWhile fun c => (hexDigit c).isSome) = cs :=
    List.takeWhile_eq_self_iff.2 (isSome_of_map_eq h)
  have hvalues : cs.filterMap hexDigit = ds := by
    have := congrArg (List.filterMap id) h
    simpa [List.filterMap_map] using this
  unfold scanHexDigits
  rw [htake, hvalues]
  cases ds with
  | nil => exact absurd rfl hne
  | cons d ds => rfl

/-- Among digits there is no whitespace to skip and no `0x`. -/
theorem scanHexInt64_of_digits (h : ∀ c ∈ s.toList, (hexDigit c).isSome = true) (value : UInt64) :
    scanHexInt64 s value = (scanHexDigits s.toList).getD value := by
  have hdrop : s.toList.dropWhile whitespacesAndNewlines = s.toList := by
    rw [List.dropWhile_eq_self_iff]
    intro hl
    rw [(isDigit_of_isSome (h _ (List.getElem_mem hl))).not_blank]
    decide
  unfold scanHexInt64
  rw [hdrop]
  split
  · rename_i x cs hs
    have hx := (isDigit_of_isSome (h x (by rw [hs]; simp))).ne
    rw [if_neg (by rintro (rfl | rfl) <;> simp at hx), hs]
  · rfl

theorem and_shiftLeft_shiftRight (n k : ℕ) : (n &&& (255 <<< k)) >>> k = n / 2 ^ k % 256 := by
  rw [Nat.shiftRight_and_distrib, Nat.shiftLeft_shiftRight, Nat.shiftRight_eq_div_pow]
  exact Nat.and_two_pow_sub_one_eq_mod _ 8

/-- The masks and shifts take the three bytes out of the value. -/
theorem channels {v : UInt64} (hv : v.toNat = red.toNat * 65536 + green.toNat * 256 + blue.toNat) :
    ((v &&& 0xFF0000) >>> 16).toNat = red.toNat ∧ ((v &&& 0x00FF00) >>> 8).toNat = green.toNat ∧
      (v &&& 0x0000FF).toNat = blue.toNat := by
  have hr := red.toNat_lt
  have hg := green.toNat_lt
  have hb := blue.toNat_lt
  refine ⟨?_, ?_, ?_⟩
  · have := and_shiftLeft_shiftRight v.toNat 16
    rw [UInt64.toNat_shiftRight, UInt64.toNat_and]
    refine this.trans ?_
    omega
  · have := and_shiftLeft_shiftRight v.toNat 8
    rw [UInt64.toNat_shiftRight, UInt64.toNat_and]
    refine this.trans ?_
    omega
  · have := and_shiftLeft_shiftRight v.toNat 0
    rw [UInt64.toNat_and]
    refine this.trans ?_
    omega

/-- The value of the six digits is that of the three bytes. -/
theorem foldl_digitValues (red green blue : UInt8) :
    (digitValues red green blue).foldl (fun v d => 16 * v + d) 0 =
      red.toNat * 65536 + green.toNat * 256 + blue.toNat := by
  simp only [digitValues, List.foldl_cons, List.foldl_nil]
  omega

/-! ## Presentations -/

theorem startsWith_hash_of_digits (h : ∀ c ∈ cs, (hexDigit c).isSome = true) :
    (String.ofList cs).startsWith "#" = false := by
  rw [String.startsWith_string_eq_false_iff]
  intro hpre
  have hmem : '#' ∈ (String.ofList cs).toList := hpre.subset (List.mem_singleton_self '#')
  rw [String.toList_ofList] at hmem
  exact (isDigit_of_isSome (h _ hmem)).ne.1 rfl

theorem startsWith_hash_cons : (String.ofList ('#' :: cs)).startsWith "#" = true := by
  rw [String.startsWith_string_iff]
  exact ⟨cs, by simp⟩

/-- Trimming leaves the mark and the digits. -/
theorem trimmingCharacters_of_digits {pre mark digits post : List Char}
    (hs : s.toList = pre ++ (mark ++ digits) ++ post)
    (hpre : ∀ c ∈ pre, whitespacesAndNewlines c = true) (hmark : mark = [] ∨ mark = ['#'])
    (hdigits : ∀ c ∈ digits, (hexDigit c).isSome = true) (hne : digits ≠ [])
    (hpost : ∀ c ∈ post, whitespacesAndNewlines c = true) :
    trimmingCharacters s = String.ofList (mark ++ digits) := by
  have hchars : ∀ c ∈ mark ++ digits, whitespacesAndNewlines c = false := by
    intro c hc
    rcases List.mem_append.1 hc with hc | hc
    · rcases hmark with rfl | rfl
      · cases hc
      · rw [List.mem_singleton.1 hc]; decide
    · exact (isDigit_of_isSome (hdigits c hc)).not_blank
  have hbare : Trim.Bare whitespacesAndNewlines (mark ++ digits) :=
    ⟨fun c hc => hchars c (List.mem_of_mem_head? hc), fun c hc => hchars c (List.mem_of_mem_getLast? hc)⟩
  have htrim := Trim.trim_of_bare hpre (List.append_ne_nil_of_right_ne_nil mark hne) hbare hpost
  rw [← hs] at htrim
  exact congrArg String.ofList htrim

/-- **What is scanned of a presentation** are the six digits, in capitals. -/
theorem Presents.scannedText_eq (hF : F.OnASCII) (hs : Presents s red green blue) :
    ∃ cs, scannedText F s = String.ofList cs ∧
      cs.map hexDigit = (digitValues red green blue).map some := by
  obtain ⟨pre, mark, digits, post, htext, hpre, hmark, hvalues, hpost⟩ := hs
  have hdigits := isSome_of_map_eq hvalues
  have hne : digits ≠ [] := by rintro rfl; cases hvalues
  have hupper : (digits.map Char.toUpper).map hexDigit = (digitValues red green blue).map some := by
    rw [List.map_map, ← hvalues]
    exact List.map_congr_left fun c hc => (isDigit_of_isSome (hdigits c hc)).toUpper
  have hascii : ∀ c ∈ (String.ofList (mark ++ digits)).toList, c.toNat < 128 := by
    rw [String.toList_ofList]
    intro c hc
    rcases List.mem_append.1 hc with hc | hc
    · rcases hmark with rfl | rfl
      · cases hc
      · rw [List.mem_singleton.1 hc]; decide
    · exact (isDigit_of_isSome (hdigits c hc)).ascii
  refine ⟨digits.map Char.toUpper, ?_, hupper⟩
  unfold scannedText
  rw [trimmingCharacters_of_digits htext hpre hmark hdigits hne hpost, hF.uppercased _ hascii,
    String.toList_ofList]
  rcases hmark with rfl | rfl
  · simp only [List.nil_append, startsWith_hash_of_digits (isSome_of_map_eq hupper)]
    rfl
  · have hhash : ('#' :: digits).map Char.toUpper = '#' :: digits.map Char.toUpper := rfl
    simp only [List.singleton_append, hhash, startsWith_hash_cons, if_true, String.toList_ofList,
      List.tail_cons]

/-- The colour of three bytes. -/
theorem Presents.hexStringToUIColor_eq (hF : F.OnASCII) (hs : Presents s red green blue) :
    hexStringToUIColor F s = .rgba (red.toNat / 255) (green.toNat / 255) (blue.toNat / 255) 1 := by
  obtain ⟨cs, hscanned, hvalues⟩ := hs.scannedText_eq hF
  have hdigits := isSome_of_map_eq hvalues
  have hlist : (String.ofList cs).toList = cs := String.toList_ofList
  have hcount : F.count (scannedText F s) = 6 := by
    rw [hscanned, hF.count, hlist]
    · simpa [digitValues] using congrArg List.length hvalues
    · intro c hc
      have hc := isDigit_of_isSome (hdigits c (hlist ▸ hc))
      exact ⟨hc.ascii, hc.ne.2.2.2⟩
  have hscan : (scanHexInt64 (scannedText F s) 0).toNat =
      red.toNat * 65536 + green.toNat * 256 + blue.toNat := by
    rw [hscanned, scanHexInt64_of_digits (by rwa [hlist]), hlist,
      scanHexDigits_of_digits hvalues (List.cons_ne_nil _ _), foldl_digitValues]
    have hr := red.toNat_lt
    have hg := green.toNat_lt
    have hb := blue.toNat_lt
    rw [Option.getD_some, UInt64.toNat_ofNat']
    omega
  obtain ⟨h1, h2, h3⟩ := channels hscan
  rw [Sens.hexStringToUIColor_eq, if_neg (not_not.2 hcount), h1, h2, h3]

/-- **A presentation of three bytes gives their colour**, and two presentations give the
same colour just when they are of the same bytes. -/
theorem hexStringToUIColor_of_presents (hF : F.OnASCII) (hs : Presents s red green blue) :
    hexStringToUIColor F s = .rgba (red.toNat / 255) (green.toNat / 255) (blue.toNat / 255) 1 ∧
    ∀ s' red' green' blue', Presents s' red' green' blue' →
      (hexStringToUIColor F s = hexStringToUIColor F s' ↔
        red = red' ∧ green = green' ∧ blue = blue') := by
  refine ⟨hs.hexStringToUIColor_eq hF, fun s' red' green' blue' hs' => ?_⟩
  rw [hs.hexStringToUIColor_eq hF, hs'.hexStringToUIColor_eq hF]
  have hdiv : ∀ x y : UInt8, ((x.toNat : ℚ) / 255 = y.toNat / 255) ↔ x = y := by
    intro x y
    have h255 : (255 : ℚ) ≠ 0 := by decide
    rw [div_left_inj' h255, Nat.cast_inj, UInt8.toNat_inj]
  simp only [UIColor.rgba.injEq, hdiv, and_true]

/-- What `Foundation.ascii` does to ASCII text. -/
theorem ascii_onASCII : Foundation.ascii.OnASCII := ⟨fun _ _ => rfl, fun _ _ => rfl⟩

/-- The orange of the palette, written in two ways. -/
theorem orange_in_two_ways : hexStringToUIColor .ascii " #ff8A00\n" = .rgba 1 (138 / 255) 0 1 ∧
    hexStringToUIColor .ascii "FF8a00" = hexStringToUIColor .ascii " #ff8A00\n" := by
  have hspaced : Presents " #ff8A00\n" 255 138 0 :=
    ⟨[' '], ['#'], "ff8A00".toList, ['\n'], by decide, by simp [whitespacesAndNewlines], .inr rfl,
      by decide, by simp [whitespacesAndNewlines]⟩
  have hbare : Presents "FF8a00" 255 138 0 :=
    ⟨[], [], "FF8a00".toList, [], by decide, by simp, .inl rfl, by decide, by simp⟩
  obtain ⟨hcolour, hsame⟩ := hexStringToUIColor_of_presents ascii_onASCII hspaced
  refine ⟨hcolour.trans (by decide +kernel), ?_⟩
  exact ((hsame _ _ _ _ hbare).2 ⟨rfl, rfl, rfl⟩).symm

end Sens
