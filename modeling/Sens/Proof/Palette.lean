import Sens.Purpose.Palette
import Sens.Proof.Colour
import Sens.Proof.Provenance
import Sens.Spec.Cells

/-!
# The colour and the emoji that an author picks

* `palette_nodup`, `emojis_nodup`: the colours of the palette differ, and so do the emoji of
  the picker.
* `selection_tells_colour`: the cell that is selected has the colour of the draft.
* `detail_tells_colour`, `detail_tells_emoji`: what a viewer is shown tells which cells the
  author had tapped.
-/

namespace Sens

variable {F : Foundation}

/-! ## The palette -/

theorem colors_eq : AddFeelingViewController.colors = swatches.map Swatch.text := by decide +kernel

theorem Swatch.presents {s : Swatch} (hs : s ∈ swatches) : Presents s.text s.red s.green s.blue := by
  have hall : swatches.all Swatch.wellFormed = true := by decide +kernel
  have hwf := List.all_eq_true.1 hall s hs
  simp only [Swatch.wellFormed, decide_eq_true_eq] at hwf
  exact ⟨[], s.mark.toList, s.digits.toList, [], by simp [Swatch.text], by simp, hwf.1, hwf.2, by simp⟩

/-- The palette, as it is displayed. -/
theorem palette_eq (hF : F.OnASCII) :
    AddFeelingViewController.colors.map (hexStringToUIColor F) = swatches.map Swatch.colour := by
  rw [colors_eq, List.map_map]
  exact List.map_congr_left fun s hs => (Swatch.presents hs).hexStringToUIColor_eq hF

/-- No colour is displayed as gray. -/
theorem hexStringToUIColor_empty (hF : F.OnASCII) : hexStringToUIColor F "" = .gray := by
  have hupper : F.uppercased "" = "" := hF.uppercased "" fun c hc => absurd hc List.not_mem_nil
  have hcount : F.count "" = 0 := hF.count "" fun c hc => absurd hc List.not_mem_nil
  have hscanned : scannedText F "" = "" := by
    have htrim : trimmingCharacters "" = "" := by decide +kernel
    have hhash : ("" : String).startsWith "#" = false := by decide +kernel
    simp only [scannedText, htrim, hupper, hhash, Bool.false_eq_true, if_false]
  rw [hexStringToUIColor_eq_gray_iff, hscanned, hcount]
  decide

/-- **The colours of the palette differ**, from each other and from the gray of no colour. -/
theorem palette_nodup (hF : F.OnASCII) :
    (hexStringToUIColor F "" :: AddFeelingViewController.colors.map (hexStringToUIColor F)).Nodup := by
  rw [palette_eq hF, hexStringToUIColor_empty hF]
  decide +kernel

theorem palette_distinct (hF : F.OnASCII) : Menu.Distinct (fun item : ℕ =>
    AddFeelingViewController.colors[item]?) "" (hexStringToUIColor F) :=
  Menu.distinct_of_nodup (palette_nodup hF)

theorem palette_isSome (item : ℕ) : (AddFeelingViewController.colors[item]?).isSome = true ↔
    item < AddFeelingViewController.colors.length := by simp

/-! ## The choice -/

theorem color_eq_item (e : AddFeelingEvent) : Choice.color e = (Choice.item e).map Choice.colorOf := by
  cases e with
  | colorTapped item =>
    simp only [Choice.color, Choice.item]
    split_ifs with hi
    · simp [Choice.colorOf, List.getElem?_eq_getElem hi]
    · simp [List.getElem?_eq_none (not_lt.1 hi)]
  | _ => rfl

/-- The last colour is that of the last item. -/
theorem lastColor_eq (es : List AddFeelingEvent) :
    Choice.lastColor es = Choice.colorOf (Choice.lastItem es) := by
  have hmap : es.filterMap Choice.color = es.filterMap fun e => (Choice.item e).map Choice.colorOf :=
    List.filterMap_congr fun e _ => color_eq_item e
  rw [Choice.lastColor, hmap]
  exact Menu.chosen_last (fun item : ℕ => AddFeelingViewController.colors[item]?) "" Choice.item es

/-- An item that is chosen is in the palette. -/
theorem lastItem_lt {es : List AddFeelingEvent} {item : ℕ} (h : Choice.lastItem es = some item) :
    item < AddFeelingViewController.colors.length := by
  rw [← palette_isSome]
  refine Menu.last_isSome (fun item : ℕ => AddFeelingViewController.colors[item]?) (fun e i he => ?_) h
  cases e with
  | colorTapped item =>
    simp only [Choice.item] at he
    split_ifs at he with hi
    cases he
    simp [hi]
  | _ => cases he

/-- **What is displayed tells the choice.** -/
theorem displayed_inj (hF : F.OnASCII) {o o' : Option ℕ}
    (ho : ∀ item, o = some item → item < AddFeelingViewController.colors.length)
    (ho' : ∀ item, o' = some item → item < AddFeelingViewController.colors.length) :
    hexStringToUIColor F (Choice.colorOf o) = hexStringToUIColor F (Choice.colorOf o') ↔ o = o' :=
  Menu.display_chosen_inj (palette_distinct hF) (fun i hi => (palette_isSome i).2 (ho i hi))
    fun i hi => (palette_isSome i).2 (ho' i hi)

/-- The cell at an item has its colour, whichever cell is handed out for it. -/
theorem cellForItemAt_run {σ : Type} {item : ℕ} (hi : item < AddFeelingViewController.colors.length)
    (dequeued : ColorCollectionViewCell) (s : σ) :
    (AddFeelingViewController.cellForItemAt F dequeued item).run s =
      .ok (dequeued.configCell F (Choice.colorOf (some item))) s := by
  have hget := List.getElem?_eq_getElem hi
  have hcolor : Choice.colorOf (some item) = AddFeelingViewController.colors[item] := by
    simp [Choice.colorOf, hget]
  simp only [AddFeelingViewController.cellForItemAt, EStateM.run_bind, Swift.run_index_of_getElem? hget,
    EStateM.run_pure, hcolor]

namespace AddFeelingViewController

open Runs

variable {touched : Option CLLocationCoordinate2D} {user : CLLocationCoordinate2D}
  {es : List AddFeelingEvent} {c c' : AddFeelingViewController} {e : AddFeelingEvent}

theorem step_selectedColors (h : step F c e = some c') :
    c'.selectedColors = ((Choice.item e).map Option.toList).getD c.selectedColors := by
  cases step_effect h with
  | color item color hi =>
    have hlt : item < colors.length := (List.getElem?_eq_some_iff.1 hi).1
    simp [Choice.item, hlt]
  | clearedNone hs => simp [Choice.item, hs]
  | locationTapped b hb alternates ha =>
    obtain ⟨t, u, hf⟩ := locationTapped_frame b alternates
    rw [hf]; rfl
  | _ => rfl

/-- **The selected cell is the colour that is saved.** After every session on the compose screen
the collection has selected the item that was tapped last, or none after a clear, and the draft
has the colour of this item, or none. -/
theorem selection_tells_colour (h : after (step F) (opened touched user) es = some c) :
    c.selectedColors = (Choice.lastItem es).toList ∧ c.pin.color = Choice.colorOf (Choice.lastItem es) ∧
      ∀ item ∈ c.selectedColors, colors[item]? = some c.pin.color := by
  have hselected : c.selectedColors = (Choice.lastItem es).toList := by
    rw [after_register (fun _ _ _ => step_ok) (·.selectedColors) (fun e => (Choice.item e).map Option.toList)
      (fun _ _ _ _ => step_selectedColors) opened_ok h, ← List.map_filterMap]
    exact List.getLastD_map (f := Option.toList) (a := none)
  have hcolor : c.pin.color = Choice.colorOf (Choice.lastItem es) := by
    rw [← lastColor_eq]
    exact after_color h
  refine ⟨hselected, hcolor, fun item hi => ?_⟩
  rw [hselected, Option.mem_toList] at hi
  rw [hcolor, hi]
  simp [Choice.colorOf, List.getElem?_eq_getElem (lastItem_lt hi)]

/-- A colour that is tapped after a clear. -/
theorem orange_is_selected : ∃ c, after (step .ascii) (opened none ⟨-8, -35⟩)
      [.colorTapped 2, .clearSelectedColor, .colorTapped 6] = some c ∧
    c.selectedColors = [6] ∧ c.pin.color = "FF8A00" := by
  have hrun : (after (step .ascii) (opened none ⟨-8, -35⟩)
      [.colorTapped 2, .clearSelectedColor, .colorTapped 6]).isSome = true := by decide +kernel
  obtain ⟨c, hc⟩ := Option.isSome_iff_exists.1 hrun
  obtain ⟨hs, hcolor, -⟩ := selection_tells_colour hc
  exact ⟨c, hc, hs, hcolor⟩

end AddFeelingViewController

/-! ## The picker -/

namespace Choice

theorem emojiList_eq : (EmojiPickerViewController.fetchEmojis {}).emojiList = [World.emojis] := by
  simp [World.emojis, EmojiPickerViewController.fetchEmojis]

theorem emojiMenu_eq_some {x : ℕ × ℕ} {e : String} :
    emojiMenu x = some e ↔ x.1 = 0 ∧ World.emojis[x.2]? = some e := by
  rw [emojiMenu, ← AddFeelingViewController.didSelectItemAt_eq,
    EmojiPickerViewController.didSelectItemAt, emojiList_eq]
  cases h : x.1 with
  | zero => simp
  | succ n => simp

theorem emojis_eq : World.emojis = (List.range' 0x1F601 (0x1F64F - 0x1F601 + 1)).filterMap
    fun i => if i.isValidChar then some (String.singleton (Char.ofNat i)) else none := by
  simp [World.emojis, EmojiPickerViewController.fetchEmojis]

theorem toNat_ofNat {n : ℕ} (h : n.isValidChar) : (Char.ofNat n).toNat = n := by
  rw [Char.ofNat, dif_pos h]
  rfl

/-- **The emoji of the picker differ**, and none is the empty text. -/
theorem emojis_nodup : ("" :: World.emojis).Nodup := by
  rw [List.nodup_cons, emojis_eq]
  constructor
  · intro hmem
    obtain ⟨n, -, hn⟩ := List.mem_filterMap.1 hmem
    split_ifs at hn
    have hempty := congrArg String.toList (Option.some.inj hn)
    simp at hempty
  · -- one emoji has one code
    refine List.Nodup.filterMap (fun n m e hn hm => ?_) List.nodup_range'
    rw [Option.mem_def] at hn hm
    split_ifs at hn hm with hv hv'
    have hchar := congrArg String.toList (Option.some.inj (hn.trans hm.symm))
    simp only [String.toList_singleton, List.cons.injEq, and_true] at hchar
    rw [← toNat_ofNat hv, hchar, toNat_ofNat hv']

theorem emoji_distinct : Menu.Distinct emojiMenu "" id where
  entries x y e e' hx hy he := by
    obtain ⟨hx1, hx2⟩ := emojiMenu_eq_some.1 hx
    obtain ⟨hy1, hy2⟩ := emojiMenu_eq_some.1 hy
    have hlist : Menu.Distinct (fun item : ℕ => World.emojis[item]?) "" id :=
      Menu.distinct_of_nodup (by simpa using emojis_nodup)
    exact Prod.ext (hx1.trans hy1.symm) (hlist.entries _ _ e e' hx2 hy2 he)
  blank x e hx he := by
    have hmem : e ∈ World.emojis := List.mem_of_getElem? (emojiMenu_eq_some.1 hx).2
    have hempty : e = "" := he
    exact (List.nodup_cons.1 emojis_nodup).1 (hempty ▸ hmem)

theorem emoji_eq_item (e : AddFeelingEvent) :
    emoji e = (emojiItem e).map (Menu.chosen emojiMenu "") := by
  cases e with
  | emojiTapped sec item =>
    simp only [emoji, emojiItem, emojiAt]
    split_ifs with hcell
    · simp [Menu.chosen, emojiMenu, emojiAt, hcell]
    · rfl
  | _ => rfl

/-- The last emoji is that of the last cell. -/
theorem lastEmoji_eq (es : List AddFeelingEvent) :
    lastEmoji es = Menu.chosen emojiMenu "" (lastEmojiItem es) := by
  have hmap : es.filterMap emoji = es.filterMap fun e => (emojiItem e).map (Menu.chosen emojiMenu "") :=
    List.filterMap_congr fun e _ => emoji_eq_item e
  rw [lastEmoji, hmap]
  exact Menu.chosen_last emojiMenu "" emojiItem es

/-- A cell that is chosen is in the picker. -/
theorem lastEmojiItem_isSome {es : List AddFeelingEvent} {x : ℕ × ℕ} (h : lastEmojiItem es = some x) :
    (emojiMenu x).isSome = true := by
  refine Menu.last_isSome emojiMenu (fun e i he => ?_) h
  cases e with
  | emojiTapped sec item =>
    simp only [emojiItem] at he
    split_ifs at he with hcell
    cases he
    simp [emojiMenu, emojiAt, hcell]
  | _ => cases he

end Choice

/-- **A tap on an emoji cell hands over the emoji that it displays**, whichever cell stood there. -/
theorem EmojiPickerViewController.cellForItemAt_ok {σ : Type} {p : EmojiPickerViewController}
    {dequeued cell : EmojiCollectionViewCell} {sec item : ℕ} {s s' : σ}
    (h : (p.cellForItemAt dequeued sec item).run s = .ok cell s') :
    p.didSelectItemAt sec item = some cell.emojiCode ∧
      cell.imageView = some (image cell.emojiCode 100) := by
  rw [didSelectItemAt]
  cases hsec : p.emojiList[sec]? with
  | none =>
    simp only [cellForItemAt, EStateM.run_bind, Swift.run_index_of_none hsec] at h
    cases h
  | some row =>
    cases hitem : row[item]? with
    | none =>
      simp only [cellForItemAt, EStateM.run_bind, Swift.run_index_of_getElem? hsec,
        Swift.run_index_of_none hitem] at h
      cases h
    | some emoji =>
      simp only [cellForItemAt, EStateM.run_bind, Swift.run_index_of_getElem? hsec,
        Swift.run_index_of_getElem? hitem] at h
      cases h
      exact ⟨hitem, rfl⟩

/-- The cells of the picker display its emoji. -/
theorem EmojiPickerViewController.cellForItemAt_run {σ : Type} {sec item : ℕ} {emoji : String}
    (h : Choice.emojiAt sec item = some emoji) (dequeued : EmojiCollectionViewCell) (s : σ) :
    ((fetchEmojis {}).cellForItemAt dequeued sec item).run s =
      .ok { dequeued with imageView := some (image emoji 100), emojiCode := emoji } s := by
  rw [← AddFeelingViewController.didSelectItemAt_eq] at h
  obtain ⟨row, hsec, hitem⟩ := Option.bind_eq_some_iff.1 h
  simp only [cellForItemAt, EStateM.run_bind, Swift.run_index_of_getElem? hsec,
    Swift.run_index_of_getElem? hitem]
  rfl

namespace World

variable {es : List WorldEvent} {user : ℕ} {a : App}

/-- **The detail screen tells the author's colour.** Behind every pin of every running app there
is a published post, and its detail screen shows the colour of one cell of the palette only:
the one that the author tapped last. It shows gray just when the author left no colour. -/
theorem detail_tells_colour (hF : F.OnASCII) {i : Pin} (h : (run F es).apps user = some a)
    (hi : i ∈ a.home.pins) : ∃ d ∈ (run F es).pins, ∃ p : Published F es d, ∃ detail : DetailPin,
      (DetailPin.viewWillAppear F (some (a.home.emotionPinAt i))).run () = .ok detail () ∧
      (detail.colorPin = .gray ↔ Choice.lastItem (Session.composeEvents p.session.during) = none) ∧
      ∀ (dequeued : ColorCollectionViewCell) (item : ℕ) (cell : ColorCollectionViewCell),
        (AddFeelingViewController.cellForItemAt F dequeued item).run () = .ok cell () →
        (cell.backgroundColor = some detail.colorPin ↔
          Choice.lastItem (Session.composeEvents p.session.during) = some item) := by
  obtain ⟨d, hd, p, hshows⟩ := run_shows h hi
  -- the colour that the pin has
  have hpin : a.home.emotionPinAt i = p.post.emotionPin := hshows.emotionPin
  have hcolor : (a.home.emotionPinAt i).color =
      Choice.colorOf (Choice.lastItem (Session.composeEvents p.session.during)) := by
    rw [hpin, ← lastColor_eq]
    exact p.chooses.color
  have hlast : ∀ item, Choice.lastItem (Session.composeEvents p.session.during) = some item →
      item < AddFeelingViewController.colors.length := fun _ => lastItem_lt
  refine ⟨d, hd, p, _, rfl, ?_, fun dequeued item cell hcell => ?_⟩
  · simp only [Option.map_some, Option.getD_some, hcolor]
    rw [← hexStringToUIColor_empty hF]
    change hexStringToUIColor F _ = hexStringToUIColor F (Choice.colorOf none) ↔ _
    exact displayed_inj hF hlast fun _ ho => by cases ho
  · have hitem : item < AddFeelingViewController.colors.length := by
      by_contra hge
      have hnone := List.getElem?_eq_none (not_lt.1 hge)
      simp only [AddFeelingViewController.cellForItemAt, EStateM.run_bind,
        Swift.run_index_of_none hnone] at hcell
      cases hcell
    rw [cellForItemAt_run hitem] at hcell
    cases hcell
    simp only [ColorCollectionViewCell.configCell, Option.map_some, Option.getD_some, hcolor,
      Option.some.injEq]
    rw [displayed_inj hF (fun _ ho => Option.some.inj ho ▸ hitem) hlast]
    exact eq_comm

/-- One user publishes with an emoji and a colour, and another loads the collection. -/
def anaPublishesOrange : List WorldEvent := [.opened 0 ⟨"u1", some "ana@sens"⟩,
  .app 0 (.didUpdateLocations [⟨-8, -35⟩]), .app 0 .AddFeelingPressed,
  .app 0 (.compose (.anonSwitched true)), .app 0 (.compose (.tagTextEdited "paz")),
  .app 0 (.compose .addEmotionTagPressed), .app 0 (.compose .selectEmojiPressed),
  .app 0 (.compose (.emojiTapped 0 2)), .app 0 (.compose (.colorTapped 6)), .app 0 .saveEmotionPressed,
  .opened 1 ⟨"u2", some "rui@sens"⟩, .app 1 .viewDidAppear,
  .app 1 (.pinsAnswered 0 (some [⟨0, AddFeelingViewController.postDocument
    { anaPost with icon := "😃", color := "FF8A00" }⟩]))]

/-- What the pin of the second user has. -/
theorem run_anaPublishesOrange : ∃ a, (run .ascii anaPublishesOrange).apps 1 = some a ∧
    a.home.pins = [⟨1, 1⟩] ∧ (a.home.emotionPinAt ⟨1, 1⟩).color = "FF8A00" ∧
      (a.home.emotionPinAt ⟨1, 1⟩).icon = "😃" := by
  have hrun : ((run .ascii anaPublishesOrange).apps 1).map (fun a => (a.home.pins,
      (a.home.emotionPinAt ⟨1, 1⟩).color, (a.home.emotionPinAt ⟨1, 1⟩).icon)) =
        some ([⟨1, 1⟩], "FF8A00", "😃") := by decide +kernel
  obtain ⟨a, ha, hpin⟩ := Option.map_eq_some_iff.1 hrun
  simp only [Prod.mk.injEq] at hpin
  exact ⟨a, ha, hpin⟩

/-- The orange that is shown is that of the cell at item 6, which was tapped. -/
theorem rui_is_shown_orange : ∃ a, (run .ascii anaPublishesOrange).apps 1 = some a ∧
    ∃ d ∈ (run .ascii anaPublishesOrange).pins, ∃ p : Published .ascii anaPublishesOrange d,
    ∃ detail : DetailPin,
      (DetailPin.viewWillAppear .ascii (some (a.home.emotionPinAt ⟨1, 1⟩))).run () = .ok detail () ∧
      detail.colorPin = .rgba 1 (138 / 255) 0 1 ∧
      Choice.lastItem (Session.composeEvents p.session.during) = some 6 := by
  obtain ⟨a, ha, hp, hcolor, -⟩ := run_anaPublishesOrange
  obtain ⟨d, hd, p, detail, hdetail, -, hcells⟩ :=
    detail_tells_colour ascii_onASCII ha (hp ▸ List.mem_singleton_self _)
  have hshown : detail.colorPin = hexStringToUIColor .ascii "FF8A00" := by
    cases hdetail
    simp only [Option.map_some, Option.getD_some, hcolor]
  refine ⟨a, ha, d, hd, p, detail, hdetail, hshown.trans (by decide +kernel), ?_⟩
  have hcell : Choice.colorOf (some 6) = "FF8A00" := by decide +kernel
  have hlt : 6 < AddFeelingViewController.colors.length := by decide
  have hrun := cellForItemAt_run (F := .ascii) hlt {} ()
  refine (hcells {} 6 _ hrun).1 ?_
  rw [ColorCollectionViewCell.configCell, hcell, hshown]

/-- **The detail screen tells the author's emoji.** Behind every pin of every running app there
is a published post, and its detail screen shows the emoji of one cell of the picker only: the
one that the author picked last. It shows the empty text just when the author picked none. -/
theorem detail_tells_emoji {i : Pin} (h : (run F es).apps user = some a) (hi : i ∈ a.home.pins) :
    ∃ d ∈ (run F es).pins, ∃ p : Published F es d, ∃ detail : DetailPin,
      (DetailPin.viewWillAppear F (some (a.home.emotionPinAt i))).run () = .ok detail () ∧
      (detail.emojiPin.map (·.text) = some "" ↔
        Choice.lastEmojiItem (Session.composeEvents p.session.during) = none) ∧
      ∀ (dequeued : EmojiCollectionViewCell) (sec item : ℕ) (cell : EmojiCollectionViewCell),
        ((EmojiPickerViewController.fetchEmojis {}).cellForItemAt dequeued sec item).run () = .ok cell () →
        (detail.emojiPin.map (·.text) = cell.imageView.map (·.text) ↔
          Choice.lastEmojiItem (Session.composeEvents p.session.during) = some (sec, item)) := by
  obtain ⟨d, hd, p, hshows⟩ := run_shows h hi
  -- the emoji that the pin has
  have hpin : a.home.emotionPinAt i = p.post.emotionPin := hshows.emotionPin
  have hicon : (a.home.emotionPinAt i).icon = Menu.chosen Choice.emojiMenu ""
      (Choice.lastEmojiItem (Session.composeEvents p.session.during)) := by
    rw [hpin, ← Choice.lastEmoji_eq]
    exact p.chooses.icon
  have hlast : ∀ x, Choice.lastEmojiItem (Session.composeEvents p.session.during) = some x →
      (Choice.emojiMenu x).isSome = true := fun _ => Choice.lastEmojiItem_isSome
  refine ⟨d, hd, p, _, rfl, ?_, fun dequeued sec item cell hcell => ?_⟩
  · simp only [Option.map_some, image, hicon, Option.some.injEq]
    change id (Menu.chosen Choice.emojiMenu "" _) = id (Menu.chosen Choice.emojiMenu "" none) ↔ _
    exact Menu.display_chosen_inj Choice.emoji_distinct hlast fun _ ho => by cases ho
  · obtain ⟨hcode, himage⟩ := EmojiPickerViewController.cellForItemAt_ok hcell
    have hmenu : Choice.emojiMenu (sec, item) = some cell.emojiCode := by
      rw [Choice.emojiMenu, ← AddFeelingViewController.didSelectItemAt_eq, hcode]
    have hchosen : Menu.chosen Choice.emojiMenu "" (some (sec, item)) = cell.emojiCode := by
      simp [Menu.chosen, hmenu]
    simp only [himage, Option.map_some, image, hicon, Option.some.injEq, ← hchosen]
    exact Menu.display_chosen_inj Choice.emoji_distinct hlast fun x hx => by
      cases hx
      rw [hmenu]; rfl

/-- The emoji that is shown is that of the cell at item 2, which was tapped. -/
theorem rui_is_shown_smile : ∃ a, (run .ascii anaPublishesOrange).apps 1 = some a ∧
    ∃ d ∈ (run .ascii anaPublishesOrange).pins, ∃ p : Published .ascii anaPublishesOrange d,
    ∃ detail : DetailPin,
      (DetailPin.viewWillAppear .ascii (some (a.home.emotionPinAt ⟨1, 1⟩))).run () = .ok detail () ∧
      detail.emojiPin.map (·.text) = some "😃" ∧
      Choice.lastEmojiItem (Session.composeEvents p.session.during) = some (0, 2) := by
  obtain ⟨a, ha, hp, -, hicon⟩ := run_anaPublishesOrange
  obtain ⟨d, hd, p, detail, hdetail, -, hcells⟩ := detail_tells_emoji ha (hp ▸ List.mem_singleton_self _)
  have hshown : detail.emojiPin.map (·.text) = some "😃" := by
    cases hdetail
    exact congrArg some hicon
  have hcell : Choice.emojiAt 0 2 = some "😃" := by decide +kernel
  refine ⟨a, ha, d, hd, p, detail, hdetail, hshown, ?_⟩
  have hrun := EmojiPickerViewController.cellForItemAt_run hcell {} ()
  exact (hcells {} 0 2 _ hrun).1 hshown

end World

end Sens
