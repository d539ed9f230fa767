import Storefront.Proofs.Suggestion.Notices
import Storefront.Proofs.Suggestion.Visibility

/-! # What is laid out

The panel last published is the one of the list that is seen, with a height that stops at the greatest
one instead of starting over from zero. A panel is published only in the place of another one, so
whoever follows the panels never finds the same one twice in a row. -/

namespace Storefront

/-- Stopping twice, at the number of rows and at the height, is stopping once at the height. -/
theorem Panel.height_ofList (visible : Bool) (count rowHeight : Nat) :
    (ofList visible count rowHeight).height =
      min ((if visible then count else 0) * rowHeight) maxHeight := by
  simp only [ofList]
  generalize (if visible then count else 0) = rows
  by_cases hrows : rows ≤ maxHeight
  · rw [Nat.min_eq_left hrows]
  rw [Nat.min_eq_right (Nat.le_of_not_ge hrows)]
  cases rowHeight with
  | zero => rfl
  | succ n =>
      have hmax : maxHeight ≤ maxHeight * (n + 1) := Nat.le_mul_of_pos_right _ n.succ_pos
      have hproduct : maxHeight * (n + 1) ≤ rows * (n + 1) :=
        Nat.mul_le_mul_right _ (Nat.le_of_not_ge hrows)
      rw [Nat.min_eq_right hmax, Nat.min_eq_right (Nat.le_trans hmax hproduct)]

namespace Suggestion

namespace Input

variable {i : Input}

/-- An act publishes the panel that it leaves, unless this was the last one already. -/
theorem Mirrors.published_eq (h : i.Mirrors) (a : Act) :
    (i.act a).published = i.published + if (i.act a).panel = i.panel then 0 else 1 := by
  have hnext : (i.act a).panel = (i.act a).view.panel i.settings.rowHeight := by
    rw [h.act a, settings_act]
  have hsame : (i.act a).panel = i.panel ↔
      (i.act a).view.shown.map List.length = i.view.shown.map List.length := by
    rw [hnext, show i.panel = i.view.panel i.settings.rowHeight from h]
    exact View.panel_eq_panel_iff _ _ _
  rw [h.published_act a]
  exact congrArg _ (if_congr hsame.symm rfl rfl)

end Input

namespace Run

variable {r : Run}

/-- The panels that are published in the course of moves, in their order. -/
def notices (r : Run) : List Move → List Panel
  | [] => []
  | m :: ms =>
    (if r.notifies m then [(r.move m).input.panel] else []) ++ (r.move m).notices ms

theorem mirrors_move (h : r.input.Mirrors) (m : Move) : (r.move m).input.Mirrors :=
  (r.moved m).input_eq ▸ h.acts _

/-- A move publishes one panel or none, and one exactly if the panel is another one after it. -/
theorem published_move (h : r.input.Mirrors) (m : Move) :
    (r.move m).input.published =
      r.input.published + if (r.move m).input.panel = r.input.panel then 0 else 1 := by
  rw [(r.moved m).input_eq]
  cases r.act? m with
  | none => exact (if_pos rfl).symm ▸ rfl
  | some a => exact h.published_eq a

theorem notifies_iff_panel_ne (h : r.input.Mirrors) (m : Move) :
    r.notifies m = true ↔ (r.move m).input.panel ≠ r.input.panel := by
  rw [notifies, bne_iff_ne, published_move h m]
  split <;> simp [*]

/-- The panel that was there and those published after it: each differs from the one before it, and
the last one is the panel that is there. -/
theorem notices_chain (h : r.input.Mirrors) (ms : List Move) :
    (r.input.panel :: r.notices ms).IsChain (· ≠ ·) ∧
      (r.input.panel :: r.notices ms).getLast? = some (r.moves ms).input.panel ∧
      (r.moves ms).input.published = r.input.published + (r.notices ms).length := by
  induction ms generalizing r with
  | nil => exact ⟨.singleton _, rfl, rfl⟩
  | cons m ms ih =>
      obtain ⟨hchain, hlast, hcount⟩ := ih (mirrors_move h m)
      have hpublished := published_move h m
      rw [moves_cons, notices]
      by_cases hsame : (r.move m).input.panel = r.input.panel
      · have hquiet : ¬r.notifies m = true := fun hm => (notifies_iff_panel_ne h m).mp hm hsame
        rw [if_pos hsame] at hpublished
        rw [if_neg hquiet, List.nil_append, ← hsame]
        exact ⟨hchain, hlast, by rw [hcount, hpublished, Nat.add_zero]⟩
      · have hnotifies : r.notifies m = true := (notifies_iff_panel_ne h m).mpr hsame
        rw [if_neg hsame] at hpublished
        rw [if_pos hnotifies, List.singleton_append]
        refine ⟨List.isChain_cons_cons.mpr ⟨Ne.symm hsame, hchain⟩, ?_, ?_⟩
        · rw [List.getLast?_cons_cons]
          exact hlast
        · rw [hcount, hpublished, List.length_cons]
          omega

/-- After every operation, timer and reply of every run, for rows of any height and lists of any
length, the panel is the one of the list that is seen, and one that is seen has rows. The panels that
were published, from the hidden one at the start, differ each from the one before it. A run of events
is a run of moves. -/
theorem panel_mirrors_view (settings : SuggestionSettings) (backend : String → Option Result)
    (ms : List Move) :
    let first := start settings backend
    let shown := (first.moves ms).input
    let rows := if shown.view.visible then shown.view.suggestions.length else 0
    shown.panel =
        { visible := shown.view.visible
          rows
          height := min (rows * settings.rowHeight) (twoTo 32 - 1) } ∧
      (shown.panel.visible = true → 1 ≤ shown.panel.rows) ∧
      (Panel.hidden :: first.notices ms).IsChain (· ≠ ·) ∧
      (Panel.hidden :: first.notices ms).getLast? = some shown.panel ∧
      shown.published = (first.notices ms).length ∧
      ∀ ss, ∃ ns, first.steps ss = first.moves ns := by
  intro first shown rows
  have hfirst : first.input.Mirrors := Input.mirrors_start settings
  have hshown : shown = first.input.acts (first.actsOf ms) := first.input_moves ms
  have hsettings : shown.settings = settings := by rw [hshown, Input.settings_acts]; rfl
  have hpanel : shown.panel = shown.view.panel settings.rowHeight := by
    have hmirrors : shown.Mirrors := hshown ▸ hfirst.acts _
    rw [← hsettings]
    exact hmirrors
  have hstocked : shown.Stocked := hshown ▸ (Input.stocked_start settings).acts _
  obtain ⟨hchain, hlast, hcount⟩ := notices_chain hfirst ms
  refine ⟨?_, ?_, hchain, hlast, ?_, fun ss => (timed_start settings backend).steps_eq_moves ss⟩
  · have hheight := Panel.height_ofList shown.view.visible shown.view.suggestions.length
      settings.rowHeight
    rw [hpanel]
    exact congrArg (Panel.mk shown.view.visible rows) hheight
  · intro hvisible
    rw [hpanel] at hvisible ⊢
    have hseen : shown.view.visible = true := hvisible
    have hrows : (shown.view.panel settings.rowHeight).rows = shown.view.suggestions.length :=
      if_pos hseen
    rw [hrows]
    exact List.length_pos_iff.mpr (hstocked hseen)
  · rw [hcount]
    exact Nat.zero_add _

/-- Two rows of the greatest height: the panel is as high as a panel can be. -/
example :
    let r := (start { rowHeight := 4294967295 } fun _ => some (.ok ["shirt", "shoes"])).moves
      [.event (.edit "sh"), .task 0, .task 1]
    r.input.panel = ⟨true, 2, 4294967295⟩ := by
  decide +kernel

end Run

end Suggestion

end Storefront
