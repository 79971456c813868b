import Gleaner.Html.Parse
import Gleaner.Proofs.Html.Adoption

/-!
# Every document is a sound tree

The rules for tokens put nodes where they belong, close elements, and split formatting elements; so
they keep a construction sound, and the tree of every text is. The operations that rules are made of
have their lemmas marked for `grind`, which goes through the branches of a rule with them; what a
rule does to the tree by itself is proved by hand.

## Main definitions

* `Outcome.Sound`: what a rule makes of a token is sound.

## Main results

* `Construction.Sound.step`, `Construction.Sound.stepForeign`: the rules.
* `Construction.Sound.take`, `Construction.Sound.run`: tokens, and whole texts.
* `exists_sound_parseDocument`, `exists_sound_parseFragment`: documents and fragments.
-/

namespace Gleaner.Html

/-- The construction that a rule gives is sound. -/
def Outcome.Sound : Outcome → Prop
  | .done s => s.Sound
  | .again s => s.Sound

namespace Outcome.Sound

@[grind ←]
theorem done {s : Construction} (h : s.Sound) : (Outcome.done s).Sound := h

@[grind ←]
theorem again {s : Construction} (h : s.Sound) : (Outcome.again s).Sound := h

theorem ite {p : Prop} [Decidable p] {o o' : Outcome} (h : o.Sound) (h' : o'.Sound) :
    (if p then o else o').Sound := by
  split
  · exact h
  · exact h'

theorem map {o : Outcome} (h : o.Sound) {f : Construction → Construction}
    (hf : ∀ s : Construction, s.Sound → (f s).Sound) : (o.map f).Sound := by
  cases o with
  | done s => exact hf s h
  | again s => exact hf s h

end Outcome.Sound

namespace Construction.Sound

open Gleaner.Html.Tree (topped)

variable {s : Construction}

/-! ### The beginning of a document -/

@[grind ←]
theorem mergeRoot (h : s.Sound) (tag : Tag) : (s.mergeRoot tag).Sound := by
  unfold Construction.mergeRoot
  refine Sound.ite h (h.extend (fun rank hfits => ⟨rank, hfits.sound.addMissingAttrs _⟩) rfl rfl)

@[grind ←]
theorem openTemplate (h : s.Sound) (tag : Tag) : (s.openTemplate tag).Sound := by
  have hopened := (h.openTag tag).mark.forbidFrames
  exact ⟨hopened.fits, hopened.holds_head⟩

@[grind ←]
theorem closeTemplate (h : s.Sound) : s.closeTemplate.Sound := by
  have hclosed := (h.close "template").clearToMarker
  exact Sound.resetMode ⟨hclosed.fits, hclosed.holds_head⟩

@[grind ←]
theorem endTemplate (h : s.Sound) : s.endTemplate.Sound := (h.popWhile _).closeTemplate.ite h

@[grind ←]
theorem finishTemplate (h : s.Sound) : s.finishTemplate.Sound :=
  Outcome.Sound.ite (.again h.closeTemplate) (.done h)

@[grind ←]
theorem openInHead (h : s.Sound) (tag : Tag) : (s.openInHead tag).Sound := by
  unfold Construction.openInHead
  grind

@[grind ←]
theorem setDoctype (h : s.Sound) (d : Doctype) : (s.setDoctype d).Sound := by
  have hput : ((s.make (.doctype (d.name.getD ""))).put (.within 0) s.tree.size).Sound :=
    h.extend (fun rank hfits => ⟨_, extends_insertIn hfits.sound h.holds_zero rfl⟩) rfl rfl
  exact ⟨hput.fits, hput.holds_head⟩

@[grind ←]
theorem initially (h : s.Sound) (token : Token) : (s.initially token).Sound := by
  have hnext : Construction.Sound { s with isOld := true, mode := .beforeHtml } :=
    ⟨h.fits, h.holds_head⟩
  unfold Construction.initially
  grind

@[grind ←]
theorem beforeHtml (h : s.Sound) (token : Token) : (s.beforeHtml token).Sound := by
  unfold Construction.beforeHtml
  grind

@[grind ←]
theorem openHead (h : s.Sound) (tag : Tag) : (s.openHead tag).Sound where
  fits := (h.openElement (elementOf tag)).fits
  holds_head {n} hn := by
    -- the head is the element that is opened
    obtain ⟨rank, hfits⟩ := (h.openElement (elementOf tag)).fits
    obtain rfl : s.tree.size = n := Option.some.inj hn
    exact hfits.holds List.mem_cons_self

@[grind ←]
theorem beforeHead (h : s.Sound) (token : Token) : (s.beforeHead token).Sound := by
  unfold Construction.beforeHead
  grind

@[grind ←]
theorem inHead (h : s.Sound) (token : Token) : (s.inHead token).Sound := by
  unfold Construction.inHead
  grind

/-- An element of the head is put where it belongs, and opened or not. -/
theorem openInHead_cases (s : Construction) (tag : Tag) :
    (s.openInHead tag).tree = (s.insertElement (elementOf tag)).1.tree ∧
      (s.openInHead tag).head = s.head ∧
      ((s.openInHead tag).opened = s.tree.size :: s.opened ∨
        (s.openInHead tag).opened = s.opened) := by
  have hinserted : (s.insertElement (elementOf tag)).1.opened = s.opened ∧
      (s.insertElement (elementOf tag)).1.head = s.head := by
    simp [Construction.insertElement]
  have hopened : (s.openTag tag).tree = (s.insertElement (elementOf tag)).1.tree ∧
      (s.openTag tag).head = s.head ∧ (s.openTag tag).opened = s.tree.size :: s.opened :=
    ⟨rfl, hinserted.2, congrArg (s.tree.size :: ·) hinserted.1⟩
  unfold Construction.openInHead
  split
  all_goals first
    | exact ⟨rfl, hinserted.2, .inr hinserted.1⟩
    | exact ⟨hopened.1, hopened.2.1, .inl hopened.2.2⟩

/-- What belongs into the head is put there when it is closed. -/
theorem openInHead_within (h : s.Sound) {head : ℕ} (hhead : s.tree.holds head = true) (tag : Tag) :
    (({ s with opened := head :: s.opened }.openInHead tag).forget head).Sound := by
  generalize hs' : ({ s with opened := head :: s.opened } : Construction) = s'
  obtain ⟨htree, hsame, hopened⟩ := openInHead_cases s' tag
  obtain ⟨rank, hfits⟩ := h.fits
  have hholds : ∀ n ∈ s'.opened, s'.tree.holds n = true := by
    subst hs'
    exact List.forall_mem_cons.2 ⟨hhead, fun _ => hfits.holds⟩
  have hfits' : Fits s'.tree rank s.opened := by
    subst hs'
    exact hfits
  have hnew := hfits'.insertElement hholds (elementOf tag)
  refine ⟨⟨topped rank s'.tree.size, ?_⟩, fun {n} hn => ?_⟩
  · -- without the head, at most the new element is open inside of the others
    have hsub : ((s'.openInHead tag).opened.filter (· ≠ head)).Sublist
        (s'.tree.size :: s.opened) := by
      subst hs'
      rcases hopened with hopened | hopened <;> rw [hopened]
      · have hsame : (s.tree.size :: head :: s.opened).filter (· ≠ head) =
            (s.tree.size :: s.opened).filter (· ≠ head) := by
          simp [List.filter_cons]
        exact hsame ▸ List.filter_sublist
      · have hsame : (head :: s.opened).filter (· ≠ head) = s.opened.filter (· ≠ head) := by
          simp
        exact hsame ▸ List.filter_sublist.trans (List.sublist_cons_self _ _)
    show Fits (s'.openInHead tag).tree _ ((s'.openInHead tag).opened.filter (· ≠ head))
    rw [htree]
    exact hnew.sublist hsub
  · replace hn : (s'.openInHead tag).head = some n := hn
    show (s'.openInHead tag).tree.holds n = true
    have hn' : s'.tree.holds n = true := by
      subst hs'
      exact h.holds_head (hsame ▸ hn)
    rw [htree, Tree.holds_congr ((extends_insertElement hfits'.sound hholds _).shape?_eq
      (Tree.lt_size_of_holds hn'))]
    exact hn'

@[grind ←]
theorem afterHead (h : s.Sound) (token : Token) : (s.afterHead token).Sound := by
  have hhead : s.tree.holds (s.head.getD 0) = true := by
    cases hs : s.head with
    | none => exact h.holds_zero
    | some n => exact h.holds_head hs
  unfold Construction.afterHead
  grind [openInHead_within]

/-! ### The body of a document -/

@[grind ←]
theorem mergeBody (h : s.Sound) (tag : Tag) : (s.mergeBody tag).Sound := by
  unfold Construction.mergeBody
  split
  next => exact h
  next body _ =>
    refine Sound.ite h ?_
    exact h.extend (fun rank hfits => ⟨rank, hfits.sound.addMissingAttrs _⟩) rfl rfl

@[grind ←]
theorem replaceBody (h : s.Sound) (tag : Tag) : (s.replaceBody tag).Sound := by
  unfold Construction.replaceBody
  split
  next => exact h
  next body hbody =>
    refine Sound.ite (Sound.switchTo (Sound.openTag ?_ tag) _) h
    obtain ⟨rank, hfits⟩ := h.fits
    obtain ⟨hsecond, hnamed⟩ := Option.filter_eq_some_iff.1 hbody
    -- there are two open elements, so that the first of them is one
    have hroot : s.root ∈ s.opened := by
      cases hopened : s.opened with
      | nil => simp [hopened] at hsecond
      | cons n outer =>
        have happend : s.opened = [] ++ n :: outer := hopened
        exact root_mem_of_opened_eq happend
    have hclosed : Construction.Sound { s with opened := [s.root] } :=
      h.of_sublist rfl (List.singleton_sublist.2 hroot) rfl
    exact hclosed.extend (fun rank hfits => ⟨rank, hfits.sound.extends_detach
      (Tree.shape?_ne_fragment_of_isSome_element? (Tree.isSome_element?_of_isNamed hnamed))⟩)
      rfl rfl

@[grind ←]
theorem openHeading (h : s.Sound) (tag : Tag) : (s.openHeading tag).Sound := by
  unfold Construction.openHeading
  grind

@[grind ←]
theorem openForm (h : s.Sound) (tag : Tag) : (s.openForm tag).Sound := by
  have hopened := h.closeParagraph.openElement (elementOf tag)
  unfold Construction.openForm
  refine Sound.ite h (Sound.ite hopened ?_)
  exact ⟨hopened.fits, hopened.holds_head⟩

@[grind ←]
theorem openItem (h : s.Sound) (tag : Tag) : (s.openItem tag).Sound := by
  unfold Construction.openItem
  grind

@[grind ←]
theorem openButton (h : s.Sound) (tag : Tag) : (s.openButton tag).Sound := by
  unfold Construction.openButton
  grind

@[grind ←]
theorem openNobr (h : s.Sound) (tag : Tag) : (s.openNobr tag).Sound := by
  unfold Construction.openNobr
  grind

@[grind ←]
theorem openTable (h : s.Sound) (tag : Tag) : (s.openTable tag).Sound := by
  unfold Construction.openTable
  grind

@[grind ←]
theorem openSelect (h : s.Sound) (tag : Tag) : (s.openSelect tag).Sound := by
  unfold Construction.openSelect
  grind

@[grind ←]
theorem insertInline (h : s.Sound) (tag : Tag) : (s.insertInline tag).Sound := by
  unfold Construction.insertInline
  grind

@[grind ←]
theorem openRuby (h : s.Sound) (tag : Tag) (but : String) : (s.openRuby tag but).Sound := by
  unfold Construction.openRuby
  grind

@[grind ←]
theorem openForeign (h : s.Sound) (space : Space) (name : String) (tag : Tag) :
    (s.openForeign space name tag).Sound := by
  unfold Construction.openForeign
  grind

@[grind ←]
theorem openInline (h : s.Sound) (tag : Tag) : (s.openInline tag).Sound := by
  unfold Construction.openInline
  grind

@[grind ←]
theorem skippingNewline (h : s.Sound) : Construction.Sound { s with skipsNewline := true } :=
  ⟨h.fits, h.holds_head⟩

@[grind ←]
theorem reading (h : s.Sound) (reading : TextMode) : Construction.Sound { s with reading } :=
  ⟨h.fits, h.holds_head⟩

@[grind ←]
theorem startInBody (h : s.Sound) (tag : Tag) : (s.startInBody tag).Sound := by
  unfold Construction.startInBody
  -- one case for each kind of name
  repeat' with_reducible refine Sound.ite ?_ ?_
  all_goals grind

@[grind ←]
theorem closeForm (h : s.Sound) : s.closeForm.Sound := by
  have hnone : Construction.Sound { s with form := none } := ⟨h.fits, h.holds_head⟩
  unfold Construction.closeForm
  grind

@[grind ←]
theorem closeHeading (h : s.Sound) : s.closeHeading.Sound := by
  unfold Construction.closeHeading
  grind

@[grind ←]
theorem closeItem (h : s.Sound) (name : String) : (s.closeItem name).Sound := by
  unfold Construction.closeItem
  grind

@[grind ←]
theorem closeParagraphTag (h : s.Sound) : s.closeParagraphTag.Sound := by
  unfold Construction.closeParagraphTag
  grind

@[grind ←]
theorem endInBody (h : s.Sound) (tag : Tag) : (s.endInBody tag).Sound := by
  unfold Construction.endInBody
  repeat' with_reducible refine Outcome.Sound.ite ?_ ?_
  all_goals grind

@[grind ←]
theorem inBody (h : s.Sound) (token : Token) : (s.inBody token).Sound := by
  unfold Construction.inBody
  grind

@[grind ←]
theorem inRawText (h : s.Sound) (token : Token) : (s.inRawText token).Sound := by
  unfold Construction.inRawText
  grind

@[grind ←]
theorem afterBody (h : s.Sound) (token : Token) : (s.afterBody token).Sound := by
  unfold Construction.afterBody
  grind

@[grind ←]
theorem afterAfterBody (h : s.Sound) (token : Token) : (s.afterAfterBody token).Sound := by
  unfold Construction.afterAfterBody
  grind

/-! ### Tables, selections, templates and frames -/

@[grind ←]
theorem foster (h : s.Sound) (token : Token) : (s.foster token).Sound := by
  have hfosters : Construction.Sound { s with fosters := true } := ⟨h.fits, h.holds_head⟩
  exact (hfosters.inBody token).map fun s hs => ⟨hs.fits, hs.holds_head⟩

@[grind ←]
theorem textInTable (h : s.Sound) (token : Token) : (s.textInTable token).Sound :=
  Outcome.Sound.ite (.again ⟨h.fits, h.holds_head⟩) (h.foster token)

@[grind ←]
theorem closeTable (h : s.Sound) : s.closeTable.Sound := (h.close "table").resetMode

@[grind ←]
theorem formInTable (h : s.Sound) (tag : Tag) : (s.formInTable tag).Sound := by
  have hinserted := h.insertElement (elementOf tag)
  exact Sound.ite h ⟨hinserted.fits, hinserted.holds_head⟩

@[grind ←]
theorem startInTable (h : s.Sound) (tag : Tag) : (s.startInTable tag).Sound := by
  unfold Construction.startInTable
  repeat' with_reducible refine Outcome.Sound.ite ?_ ?_
  all_goals grind

@[grind ←]
theorem endInTable (h : s.Sound) (tag : Tag) : (s.endInTable tag).Sound := by
  unfold Construction.endInTable
  grind

@[grind ←]
theorem inTable (h : s.Sound) (token : Token) : (s.inTable token).Sound := by
  unfold Construction.inTable
  grind

@[grind ←]
theorem placePending (h : s.Sound) : s.placePending.Sound := by
  have hbare : Construction.Sound { s with pending := [] } := ⟨h.fits, h.holds_head⟩
  -- the tokens are placed one after the other
  have hfold : ∀ {place : Construction → Token → Construction},
      (∀ s token, s.Sound → (place s token).Sound) → ∀ (tokens : List Token) {s : Construction},
        s.Sound → (tokens.foldl place s).Sound := by
    intro place hplace tokens
    induction tokens with
    | nil => exact fun hs => hs
    | cons token tokens ih => exact fun hs => ih (hplace _ token hs)
  refine Sound.ite (hfold (fun s token hs => ?_) _ hbare) (hfold (fun s token hs => ?_) _ hbare)
  · have hfoster := hs.foster token
    split
    next hout => rwa [hout] at hfoster
    next hout => rwa [hout] at hfoster
  · cases token <;> grind

@[grind ←]
theorem inTableText (h : s.Sound) (token : Token) : (s.inTableText token).Sound := by
  have hpending (pending : List Token) : Construction.Sound { s with pending } :=
    ⟨h.fits, h.holds_head⟩
  unfold Construction.inTableText
  grind

@[grind ←]
theorem inCaption (h : s.Sound) (token : Token) : (s.inCaption token).Sound := by
  unfold Construction.inCaption
  grind

@[grind ←]
theorem leaveColumns (h : s.Sound) : s.leaveColumns.Sound :=
  Outcome.Sound.ite (.again (h.pop.switchTo _)) (.done h)

@[grind ←]
theorem inColumnGroup (h : s.Sound) (token : Token) : (s.inColumnGroup token).Sound := by
  unfold Construction.inColumnGroup
  grind

@[grind ←]
theorem leaveGroup (h : s.Sound) : s.leaveGroup.Sound :=
  Outcome.Sound.ite (.again ((h.popTo _).pop.switchTo _)) (.done h)

@[grind ←]
theorem inTableBody (h : s.Sound) (token : Token) : (s.inTableBody token).Sound := by
  unfold Construction.inTableBody
  grind

@[grind ←]
theorem closeRow (h : s.Sound) : s.closeRow.Sound := (h.popTo _).pop.switchTo _

@[grind ←]
theorem leaveRow (h : s.Sound) : s.leaveRow.Sound :=
  Outcome.Sound.ite (.again h.closeRow) (.done h)

@[grind ←]
theorem inRow (h : s.Sound) (token : Token) : (s.inRow token).Sound := by
  unfold Construction.inRow
  grind

@[grind ←]
theorem closeCell (h : s.Sound) : s.closeCell.Sound :=
  (((h.popWhile _).popUntil _).clearToMarker).switchTo _

@[grind ←]
theorem inCell (h : s.Sound) (token : Token) : (s.inCell token).Sound := by
  unfold Construction.inCell
  grind

@[grind ←]
theorem closeSelect (h : s.Sound) : s.closeSelect.Sound := (h.close "select").resetMode

@[grind ←]
theorem closeOptions (h : s.Sound) : s.closeOptions.Sound := by
  unfold Construction.closeOptions
  grind

@[grind ←]
theorem startInSelect (h : s.Sound) (tag : Tag) : (s.startInSelect tag).Sound := by
  unfold Construction.startInSelect
  grind

@[grind ←]
theorem inSelect (h : s.Sound) (token : Token) : (s.inSelect token).Sound := by
  unfold Construction.inSelect
  grind

@[grind ←]
theorem inSelectInTable (h : s.Sound) (token : Token) : (s.inSelectInTable token).Sound := by
  unfold Construction.inSelectInTable
  grind

@[grind ←]
theorem retemplate (h : s.Sound) (mode : Mode) : (s.retemplate mode).Sound :=
  ⟨h.fits, h.holds_head⟩

@[grind ←]
theorem inTemplate (h : s.Sound) (token : Token) : (s.inTemplate token).Sound := by
  unfold Construction.inTemplate
  grind

@[grind ←]
theorem closeFrameset (h : s.Sound) : s.closeFrameset.Sound :=
  Sound.ite h (Sound.ite (h.pop.switchTo _) h.pop)

@[grind ←]
theorem startAfterFrames (h : s.Sound) (tag : Tag) : (s.startAfterFrames tag).Sound := by
  unfold Construction.startAfterFrames
  grind

@[grind ←]
theorem inFrameset (h : s.Sound) (token : Token) : (s.inFrameset token).Sound := by
  unfold Construction.inFrameset
  grind

@[grind ←]
theorem afterFrameset (h : s.Sound) (token : Token) : (s.afterFrameset token).Sound := by
  unfold Construction.afterFrameset
  grind

@[grind ←]
theorem afterAfterFrameset (h : s.Sound) (token : Token) :
    (s.afterAfterFrameset token).Sound := by
  unfold Construction.afterAfterFrameset
  grind

/-! ### Tokens -/

/-- A token taken as the mode says. -/
theorem step (h : s.Sound) (token : Token) : (s.step token).Sound := by
  unfold Construction.step
  cases s.mode <;> grind

theorem leaveForeign (h : s.Sound) : s.leaveForeign.Sound :=
  h.of_sublist rfl ((List.dropWhile_sublist _).trans (List.tail_sublist _)) rfl

theorem endInForeign (h : s.Sound) (tag : Tag) (first : Bool) {ns : List NodeId}
    (hns : ns.Sublist s.opened) : (s.endInForeign tag first ns).Sound := by
  induction ns generalizing first with
  | nil => exact h
  | cons n outer ih =>
    have houter : outer.Sublist s.opened := (List.sublist_cons_self n outer).trans hns
    have hclosed : Construction.Sound { s with opened := outer } := h.of_sublist rfl houter rfl
    cases outer with
    | nil => exact h
    | cons m outer =>
      unfold Construction.endInForeign
      split
      · exact h
      · exact Outcome.Sound.ite (h.step _) (Outcome.Sound.ite hclosed (ih _ houter))

/-- A token taken in a foreign element. -/
theorem stepForeign (h : s.Sound) (token : Token) : (s.stepForeign token).Sound := by
  have hleft := h.leaveForeign
  have hopened (tag : Tag) : (s.openInForeign tag).Sound := h.openForeign _ _ _
  have hended (tag : Tag) : (s.endInForeign tag true s.opened).Sound :=
    h.endInForeign tag true (List.Sublist.refl _)
  unfold Construction.stepForeign
  grind

theorem settle (token : Token) (times : ℕ) (h : s.Sound) :
    (settle token times s).Sound := by
  induction times generalizing s with
  | zero => exact h
  | succ times ih =>
    have hstep : (if s.isForeign token then s.stepForeign token else s.step token).Sound :=
      Outcome.Sound.ite (h.stepForeign token) (h.step token)
    unfold Construction.settle
    split
    next hout => rwa [hout] at hstep
    next hout =>
      rw [hout] at hstep
      exact ih hstep

/-- A token taken. -/
theorem take (h : s.Sound) (token : Token) : (s.take token).Sound := by
  have hnext : Construction.Sound { s with skipsNewline := false } := ⟨h.fits, h.holds_head⟩
  have hsettled (token : Token) := hnext.settle token (32 * (s.opened.length + 2))
  cases token with
  | blanks text => exact Sound.ite hnext (hsettled _)
  | doctype d => exact Sound.ite (hnext.setDoctype d) hnext
  | null => exact hsettled _
  | text text => exact hsettled _
  | comment text => exact hsettled _
  | startTag tag => exact hsettled _
  | endTag tag => exact hsettled _
  | finish => exact hsettled _

/-- The tokens of a text taken, up to the end. -/
theorem run (times : ℕ) (h : s.Sound) (cs : List Char) : (s.run times cs).Sound := by
  have hfold : ∀ (tokens : List Token) {s : Construction}, s.Sound →
      (tokens.foldl Construction.take s).Sound := by
    intro tokens
    induction tokens with
    | nil => exact fun hs => hs
    | cons token tokens ih => exact fun hs => ih (hs.take token)
  induction times generalizing s cs with
  | zero => exact h
  | succ times ih =>
    cases cs with
    | nil => exact h.take _
    | cons c cs =>
      exact ih (s := (Token.next s.reading s.inForeign (c :: cs)).1.foldl Construction.take
        { s with reading := .data }) (hfold _ ⟨h.fits, h.holds_head⟩) _

end Construction.Sound

/-! ### Documents and fragments -/

section

variable (source : String)

/-- A construction with nothing but a root is sound. -/
theorem Construction.sound_bare {s : Construction} {content : Content}
    (hcontent : content = .document ∨ content = .fragment)
    (htree : s.tree = ⟨#[{ content }]⟩) (hopened : s.opened = []) (hhead : s.head = none) :
    s.Sound := by
  have hshape : s.tree.shape? 0 = some .document ∨ s.tree.shape? 0 = some .fragment := by
    rcases hcontent with rfl | rfl <;> simp [htree, Tree.shape?, Tree.content?, Content.shape]
  have hchildren (n : ℕ) : s.tree.children n = [] := by
    cases n <;> simp [htree, Tree.children]
  have hparent (n : ℕ) : s.tree.parent? n = none := by
    cases n <;> simp [htree, Tree.parent?]
  have hnamed (n : ℕ) (name : String) : s.tree.isNamed n name = false := by
    cases n <;> rcases hcontent with rfl | rfl <;>
      simp [htree, Tree.isNamed, Tree.element?, Tree.content?]
  have hsound : s.tree.Sound fun _ => 0 :=
    { linked := by simp [hchildren]
      listed := by simp [hparent]
      nodup := by simp [hchildren]
      holds := by simp [hparent]
      template_head := by simp [hnamed]
      fragment_head := by simp [hparent]
      rank_lt := by simp [hparent]
      rank_zero := rfl
      root := hshape }
  exact ⟨⟨_, hsound, by simp [hopened], by simp [hopened]⟩, by simp [hhead]⟩

/-- The tree of a document is sound. -/
theorem exists_sound_parseDocument : ∃ rank, (parseDocument source).Sound rank := by
  have hbare : Construction.Sound { tree := ⟨#[{ content := .document }]⟩, mode := .initial } :=
    Construction.sound_bare (.inl rfl) rfl rfl rfl
  exact (hbare.run _ _).fits.imp fun _ hfits => hfits.sound

/-- The tree of a fragment is sound. -/
theorem exists_sound_parseFragment : ∃ rank, (parseFragment source).Sound rank := by
  have hbare : Construction.Sound
      { tree := ⟨#[{ content := .fragment }]⟩, mode := .inBody,
        context := some { name := "body" } } :=
    Construction.sound_bare (.inr rfl) rfl rfl rfl
  have hroot := (hbare.makeElement { name := "body" }).openRoot []
  exact (hroot.resetMode.run _ _).fits.imp fun _ hfits => hfits.sound

end

end Gleaner.Html
