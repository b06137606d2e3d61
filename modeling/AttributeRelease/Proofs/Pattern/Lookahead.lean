import AttributeRelease.Pattern.Escape
import Mathlib.Data.List.TakeWhile

/-!
# Reading in front of what closes a group

A pattern that has to match from end to end stands in a group of its own, and the end of the text
behind it.  A reader that is given these characters as well reads either what it reads without them,
or beyond the pattern: then the group is not closed by its own parenthesis.
-/

namespace AttributeRelease.Pattern

open Text

/-- What stands behind a pattern that has to match from end to end. -/
def closing : List Char := [')', '$']

/-- A reader took what closes the group. -/
def Beyond (cs : List Char) : Prop := cs = [] ∨ cs = ['$']

variable {α β γ : Type} {m n : Nat}

/-- A reader agrees with itself on the characters of a pattern and on what stands behind them: if it
succeeds there, its result is lost, or it is the result on the pattern alone, with no more than a
number of characters left. -/
def Agrees (lost : α → List Char → Prop) (n : Nat) (alone behind : Except Fault (α × List Char)) :
    Prop :=
  ∀ a rest', behind = .ok (a, rest') →
    lost a rest' ∨ ∃ rest, rest' = rest ++ closing ∧ rest.length ≤ n ∧ alone = .ok (a, rest)

/-- A result that is lost, if it is one. -/
def Loses (lost : α → List Char → Prop) (behind : Except Fault (α × List Char)) : Prop :=
  ∀ a rest', behind = .ok (a, rest') → lost a rest'

namespace Loses

variable {lost : α → List Char → Prop} {lost' : β → List Char → Prop}

theorem error (e : Fault) : Loses lost (.error e) := nofun

theorem ok {a : α} {rest : List Char} (h : lost a rest) : Loses lost (.ok (a, rest)) := by
  rintro _ _ ⟨⟩
  exact h

theorem agrees {behind : Except Fault (α × List Char)} (h : Loses lost behind) (n : Nat)
    (alone : Except Fault (α × List Char)) : Agrees lost n alone behind :=
  fun a rest' hok => .inl (h a rest' hok)

theorem bind {x : Except Fault γ} {k : γ → Except Fault (α × List Char)}
    (h : ∀ a, x = .ok a → Loses lost (k a)) : Loses lost (x >>= k) := by
  cases x with
  | error e => exact .error e
  | ok a => exact h a rfl

end Loses

namespace Agrees

variable {lost : α → List Char → Prop} {lost' : β → List Char → Prop}
  {alone behind : Except Fault (α × List Char)}

theorem error (e : Fault) : Agrees lost n alone (.error e) := (Loses.error e).agrees n alone

theorem ok {a : α} {rest : List Char} (h : rest.length ≤ n) :
    Agrees lost n (.ok (a, rest)) (.ok (a, rest ++ closing)) := by
  rintro _ _ ⟨⟩
  exact .inr ⟨rest, rfl, h, rfl⟩

theorem mono (h : Agrees lost m alone behind) (hmn : m ≤ n) : Agrees lost n alone behind :=
  fun a rest' hok => (h a rest' hok).imp_right fun ⟨rest, heq, hle, halone⟩ =>
    ⟨rest, heq, Nat.le_trans hle hmn, halone⟩

theorem weaken {lost' : α → List Char → Prop} (h : Agrees lost n alone behind)
    (himp : ∀ a rest, lost a rest → lost' a rest) : Agrees lost' n alone behind :=
  fun a rest' hok => (h a rest' hok).imp_left (himp a rest')

/-- What is done with the result. -/
theorem bind {k k' : α × List Char → Except Fault (β × List Char)}
    (h : Agrees lost m alone behind)
    (hnext : ∀ a rest, rest.length ≤ m →
      Agrees lost' n (k (a, rest)) (k' (a, rest ++ closing)))
    (hlost : ∀ a rest', lost a rest' → Loses lost' (k' (a, rest'))) :
    Agrees lost' n (alone >>= k) (behind >>= k') := by
  cases behind with
  | error e => exact .error e
  | ok result =>
      obtain ⟨a, rest'⟩ := result
      rcases h a rest' rfl with hend | ⟨rest, rfl, hle, rfl⟩
      · exact (hlost a rest' hend).agrees n _
      · exact hnext a rest hle

/-- A check that does not read. -/
theorem check {x : Except Fault γ} {k k' : γ → Except Fault (α × List Char)}
    (h : ∀ a, x = .ok a → Agrees lost n (k a) (k' a)) : Agrees lost n (x >>= k) (x >>= k') := by
  cases x with
  | error e => exact .error e
  | ok a => exact h a rfl

theorem map {f : α → β} (h : Agrees lost n alone behind)
    (hlost : ∀ a rest, lost a rest → lost' (f a) rest) :
    Agrees lost' n (alone.map fun r => (f r.1, r.2)) (behind.map fun r => (f r.1, r.2)) := by
  cases behind with
  | error e => exact .error e
  | ok result =>
      obtain ⟨a, rest'⟩ := result
      rcases h a rest' rfl with hend | ⟨rest, rfl, hle, rfl⟩
      · exact (Loses.ok (hlost a rest' hend)).agrees n _
      · exact .ok hle

end Agrees

/-- The result is lost beyond the pattern. -/
abbrev Past : α → List Char → Prop := fun _ => Beyond

/-! ## Blanks and comments -/

theorem skipBlanks_append (cs : List Char) (comment : Bool) :
    skipBlanks comment (cs ++ closing) = skipBlanks comment cs ++ closing ∨
      skipBlanks comment (cs ++ closing) = [] ∧ skipBlanks comment cs = [] := by
  induction cs generalizing comment with
  | nil =>
      cases comment with
      | true => exact .inr ⟨rfl, rfl⟩
      | false => exact .inl rfl
  | cons c cs ih =>
      cases comment with
      | true => exact ih _
      | false =>
          simp only [List.cons_append, skipBlanks]
          split
          · exact ih _
          · split
            · exact ih _
            · exact .inl rfl

theorem length_skipBlanks_le (cs : List Char) (comment : Bool) :
    (skipBlanks comment cs).length ≤ cs.length := by
  induction cs generalizing comment with
  | nil => cases comment <;> exact Nat.le_refl _
  | cons c cs ih =>
      cases comment with
      | true => exact Nat.le_succ_of_le (ih _)
      | false =>
          rw [skipBlanks]
          split
          · exact Nat.le_succ_of_le (ih _)
          · split
            · exact Nat.le_succ_of_le (ih _)
            · exact Nat.le_refl _

namespace Flags

/-- A comment that is not ended takes what stands behind it. -/
theorem skip_append (flags : Flags) (cs : List Char) :
    flags.skip (cs ++ closing) = flags.skip cs ++ closing ∨
      flags.skip (cs ++ closing) = [] ∧ flags.skip cs = [] := by
  unfold skip
  split
  · exact skipBlanks_append cs false
  · exact .inl rfl

theorem length_skip_le (flags : Flags) (cs : List Char) : (flags.skip cs).length ≤ cs.length := by
  unfold skip
  split
  · exact length_skipBlanks_le cs false
  · exact Nat.le_refl _

@[simp] theorem skip_nil (flags : Flags) : flags.skip [] = [] := by
  unfold skip
  split <;> rfl

theorem skip_closing (flags : Flags) : flags.skip closing = closing := by
  unfold skip
  split <;> rfl

theorem skip_beyond (flags : Flags) {cs : List Char} (h : Beyond cs) : flags.skip cs = cs := by
  rcases h with rfl | rfl
  · exact flags.skip_nil
  · unfold skip
    split <;> rfl

theorem beyond_skip (flags : Flags) {cs : List Char} (h : Beyond cs) : Beyond (flags.skip cs) :=
  (flags.skip_beyond h).symm ▸ h

end Flags

/-- Nothing but a closing parenthesis can come in sight. -/
theorem head?_append {c : Char} (h : c ≠ ')') (cs : List Char) :
    (cs ++ closing).head? = some c ↔ cs.head? = some c := by
  cases cs with
  | nil => simp [closing, h.symm]
  | cons d rest => rfl

theorem head?_beyond {c : Char} (h : c ≠ '$') {cs : List Char} (hcs : Beyond cs) :
    cs.head? ≠ some c := by
  rcases hcs with rfl | rfl
  · exact nofun
  · exact fun heq => h (Option.some.inj heq).symm

theorem head?_skip_append {c : Char} (h : c ≠ ')') (flags : Flags) (cs : List Char) :
    (flags.skip (cs ++ closing)).head? = some c ↔ (flags.skip cs).head? = some c := by
  rcases flags.skip_append cs with heq | ⟨heq, heq'⟩
  · rw [heq, head?_append h]
  · rw [heq, heq']

namespace Agrees

variable {lost : α → List Char → Prop} {cs : List Char}

/-- Blanks and comments are passed over before something is read. -/
theorem skip (flags : Flags) {f g : List Char → Except Fault (α × List Char)}
    (h : ∀ rest, rest.length ≤ cs.length → Agrees lost n (f rest) (g (rest ++ closing)))
    (hnil : Loses lost (g [])) :
    Agrees lost n (f (flags.skip cs)) (g (flags.skip (cs ++ closing))) := by
  rcases flags.skip_append cs with heq | ⟨heq, -⟩
  · rw [heq]
    exact h _ (flags.length_skip_le cs)
  · rw [heq]
    exact hnil.agrees n _

theorem ok_skip (flags : Flags) {a : α} (h : cs.length ≤ n) :
    Agrees Past n (.ok (a, flags.skip cs)) (.ok (a, flags.skip (cs ++ closing))) :=
  skip flags (f := fun rest => .ok (a, rest)) (g := fun rest => .ok (a, rest))
    (fun _ hle => .ok (Nat.le_trans hle h)) (.ok (.inl rfl))

end Agrees

/-! ## Texts up to a character -/

/-- What is searched for stands in the pattern, or neither there nor behind it. -/
theorem cut_append {c : Char} (hc : c ∉ closing) (cs : List Char) :
    cs.dropWhile (· ≠ c) = [] ∧ (cs ++ closing).dropWhile (· ≠ c) = [] ∨
      cs.dropWhile (· ≠ c) ≠ [] ∧
        (cs ++ closing).dropWhile (· ≠ c) = cs.dropWhile (· ≠ c) ++ closing ∧
        (cs ++ closing).takeWhile (· ≠ c) = cs.takeWhile (· ≠ c) := by
  have hclosing : closing.dropWhile (· ≠ c) = [] := by
    rw [List.dropWhile_eq_nil_iff]
    intro d hd
    exact decide_eq_true fun heq => hc (heq ▸ hd)
  rw [List.dropWhile_append]
  by_cases hnil : cs.dropWhile (· ≠ c) = []
  · exact .inl ⟨hnil, by rw [hnil, hclosing]; rfl⟩
  · refine .inr ⟨hnil, if_neg (by simpa using hnil), ?_⟩
    rw [List.takeWhile_append, if_neg]
    intro hlength
    have hsplit := congrArg List.length (List.takeWhile_append_dropWhile (p := (· ≠ c)) (l := cs))
    rw [List.length_append, hlength, Nat.add_eq_left] at hsplit
    exact hnil (List.eq_nil_of_length_eq_zero hsplit)

/-! ## Numbers -/

theorem takeDigits_agrees (flags : Flags) (digits : List Char) {room room' : Nat} {cs : List Char}
    (h : cs.length ≤ room) (h' : cs.length ≤ room') :
    Agrees Past cs.length (.ok (takeDigits flags room digits cs))
      (.ok (takeDigits flags room' digits (cs ++ closing))) := by
  induction room' generalizing room digits cs with
  | zero =>
      obtain rfl := List.eq_nil_of_length_eq_zero (Nat.le_zero.mp h')
      cases room <;> exact .ok (Nat.le_refl _)
  | succ room' ih =>
      cases cs with
      | nil => cases room <;> exact .ok (Nat.le_refl _)
      | cons c cs =>
          cases room with
          | zero => cases h
          | succ room =>
              rw [List.cons_append, takeDigits, takeDigits]
              split
              · refine (Agrees.skip flags (n := cs.length)
                  (f := fun rest => .ok (takeDigits flags room _ rest))
                  (g := fun rest => .ok (takeDigits flags room' _ rest))
                  (fun rest hle => ?_) ?_).mono (Nat.le_succ _)
                · refine (ih _ ?_ ?_).mono hle
                  · exact Nat.le_trans hle (Nat.le_of_succ_le_succ h)
                  · exact Nat.le_trans hle (Nat.le_of_succ_le_succ h')
                · cases room' <;> exact .ok (.inl rfl)
              · exact .ok (Nat.le_refl _)

theorem dropBlanks_append (cs : List Char) :
    dropBlanks (cs ++ closing) = dropBlanks cs ++ closing := by
  induction cs with
  | nil => rfl
  | cons c cs ih =>
      rw [List.cons_append, dropBlanks, List.dropWhile_cons, dropBlanks, List.dropWhile_cons]
      split
      · exact ih
      · rfl

theorem dropBlanks_beyond {cs : List Char} (h : Beyond cs) : dropBlanks cs = cs := by
  rcases h with rfl | rfl <;> rfl

theorem length_dropBlanks_le (cs : List Char) : (dropBlanks cs).length ≤ cs.length :=
  (List.dropWhile_sublist _).length_le

theorem readDecimal_agrees (flags : Flags) (cs : List Char) :
    Agrees Past cs.length (readDecimal flags cs) (readDecimal flags (cs ++ closing)) := by
  have hdigits := takeDigits_agrees flags [] (Nat.le_refl (dropBlanks cs).length)
    (by simp : (dropBlanks cs).length ≤ (dropBlanks cs ++ closing).length)
  simp only [readDecimal, dropBlanks_append]
  generalize takeDigits flags (dropBlanks cs).length [] (dropBlanks cs) = alone at hdigits ⊢
  generalize takeDigits flags (dropBlanks cs ++ closing).length [] (dropBlanks cs ++ closing) =
    behind at hdigits ⊢
  obtain ⟨digits, rest⟩ := alone
  obtain ⟨digits', rest'⟩ := behind
  dsimp only
  rcases hdigits _ _ rfl with hbeyond | ⟨_, rfl, hle, ⟨⟩⟩
  · rw [dropBlanks_beyond hbeyond, flags.skip_beyond hbeyond]
    refine Loses.agrees ?_ _ _
    split
    · exact .error _
    · exact .ok hbeyond
  · split
    · exact .error _
    · rw [dropBlanks_append]
      refine .ok_skip flags (Nat.le_trans (length_dropBlanks_le rest) ?_)
      exact Nat.le_trans hle (length_dropBlanks_le cs)

/-- A number behind blanks and comments. -/
theorem readDecimal_skip_agrees (flags : Flags) (cs : List Char) :
    Agrees Past cs.length (readDecimal flags (flags.skip cs))
      (readDecimal flags (flags.skip (cs ++ closing))) :=
  .skip flags (f := readDecimal flags) (g := readDecimal flags)
    (fun rest hle => (readDecimal_agrees flags rest).mono hle) (.error _)

theorem takeHex_agrees (flags : Flags) (width : Nat) (digits cs : List Char) :
    Agrees Past cs.length (takeHex flags width digits cs)
      (takeHex flags width digits (cs ++ closing)) := by
  induction width generalizing digits cs with
  | zero => exact .ok (Nat.le_refl _)
  | succ width ih =>
      cases cs with
      | nil => exact .error _
      | cons c cs =>
          rw [List.cons_append, takeHex, takeHex]
          split
          · refine (Agrees.skip flags (n := cs.length) (f := takeHex flags width _)
              (g := takeHex flags width _) (fun rest hle => (ih _ rest).mono hle) ?_).mono
              (Nat.le_succ _)
            cases width
            · exact .ok (.inl rfl)
            · exact .error _
          · exact .error _

/-- No brace is closed beyond the pattern. -/
theorem takeBraced_beyond (flags : Flags) (room : Nat) (inside : List Char) {cs : List Char}
    (h : Beyond cs) : takeBraced flags room inside cs = .error .escapeUnfinished := by
  have hnil (room : Nat) (inside : List Char) :
      takeBraced flags room inside [] = .error .escapeUnfinished := by
    cases room <;> rfl
  rcases h with rfl | rfl
  · exact hnil room inside
  · cases room with
    | zero => rfl
    | succ room => simp [takeBraced, hnil]

theorem takeBraced_agrees (flags : Flags) {room room' : Nat} {inside cs : List Char}
    (h : cs.length < room) :
    Agrees Past cs.length (takeBraced flags room inside cs)
      (takeBraced flags room' inside (cs ++ closing)) := by
  induction room' generalizing room inside cs with
  | zero => exact .error _
  | succ room' ih =>
      cases room with
      | zero => cases h
      | succ room =>
          cases cs with
          | nil =>
              have hbeyond : Beyond ['$'] := .inr rfl
              have hfails :
                  takeBraced flags (room' + 1) inside closing = .error .escapeUnfinished := by
                simp [closing, takeBraced, flags.skip_beyond hbeyond,
                  takeBraced_beyond flags _ _ hbeyond]
              rw [List.nil_append, hfails]
              exact .error _
          | cons c cs =>
              rw [List.cons_append, takeBraced, takeBraced]
              split
              · exact .ok (Nat.le_succ _)
              · refine (Agrees.skip flags (n := cs.length) (f := takeBraced flags room _)
                  (g := takeBraced flags room' _) (fun rest hle => ?_) ?_).mono (Nat.le_succ _)
                · refine (ih (Nat.lt_of_le_of_lt hle (Nat.lt_of_succ_lt_succ h))).mono hle
                · rw [takeBraced_beyond flags _ _ (.inl rfl)]
                  exact .error _

/-- What stands between braces, where blanks are passed over behind the opening one. -/
theorem takeBraced_skip_agrees (flags : Flags) (room' : Nat) (cs : List Char) :
    Agrees Past cs.length (takeBraced flags (cs.length + 1) [] (flags.skip cs))
      (takeBraced flags room' [] (flags.skip (cs ++ closing))) := by
  refine Agrees.skip flags (f := takeBraced flags (cs.length + 1) [])
    (g := takeBraced flags room' []) (fun rest hle => ?_) ?_
  · exact (takeBraced_agrees flags (Nat.lt_succ_of_le hle)).mono hle
  · rw [takeBraced_beyond flags _ _ (.inl rfl)]
    exact .error _

/-! ## Codes and properties -/

theorem readCode_agrees (flags : Flags) {width : Nat} (h : 0 < width) (cs : List Char) :
    Agrees Past cs.length (readCode flags width cs) (readCode flags width (cs ++ closing)) := by
  obtain ⟨width, rfl⟩ := Nat.exists_eq_succ_of_ne_zero (Nat.ne_of_gt h)
  unfold readCode
  rcases flags.skip_append cs with heq | ⟨heq, -⟩
  · have hle := flags.length_skip_le cs
    rw [heq]
    generalize flags.skip cs = rest at hle ⊢
    cases rest with
    | nil => exact .error _
    | cons c rest =>
        rw [List.cons_append]
        dsimp only
        split
        · refine (takeBraced_skip_agrees flags _ rest).bind
            (fun inside after hafter => ?_) (fun inside after hbeyond => ?_)
          · dsimp only
            split
            · exact .check fun c _ =>
                .ok_skip flags (Nat.le_trans hafter (Nat.le_of_succ_le hle))
            · exact .error _
          · dsimp only
            rw [flags.skip_beyond hbeyond]
            split
            · exact .bind fun c _ => .ok hbeyond
            · exact .error _
        · refine ((takeHex_agrees flags (width + 1) [] (c :: rest)).mono hle).bind
            (fun digits after hafter => ?_) (fun digits after hbeyond => ?_)
          · exact .check fun c _ => .ok hafter
          · exact .bind fun c _ => .ok hbeyond
  · rw [heq]
    exact .error _

theorem readProperty_agrees (flags : Flags) (other : Bool) (cs : List Char) :
    Agrees Past cs.length (readProperty flags other cs)
      (readProperty flags other (cs ++ closing)) := by
  unfold readProperty
  extract_lets setOf
  have hlost (query : List Char) {rest : List Char} (h : Beyond rest) :
      Loses Past (setOf (query, rest)) := by
    dsimp only [setOf]
    split
    · exact .error _
    · split
      · exact .error _
      · exact .ok h
  have hset {alone behind} (h : Agrees Past cs.length alone behind) :
      Agrees Past cs.length (alone >>= setOf) (behind >>= setOf) := by
    refine h.bind (fun query rest hle => ?_) (fun query rest => hlost query)
    dsimp only [setOf]
    split
    · exact .error _
    · split
      · exact .error _
      · exact .ok hle
  rcases flags.skip_append cs with heq | ⟨heq, -⟩
  · have hle := flags.length_skip_le cs
    rw [heq]
    generalize flags.skip cs = rest at hle ⊢
    cases rest with
    | nil =>
        have hclosing : Loses Past (setOf ([')'], flags.skip ['$'])) :=
          hlost [')'] (flags.beyond_skip (.inr rfl))
        exact hclosing.agrees _ _
    | cons c rest =>
        rw [List.cons_append]
        dsimp only
        split
        · exact hset ((takeBraced_skip_agrees flags _ rest).mono (Nat.le_of_succ_le hle))
        · split
          · exact .error _
          · exact hset (.ok_skip flags (Nat.le_of_succ_le hle))
  · rw [heq]
    exact .error _

/-! ## Escapes -/

/-- An edge in front of a brace that nothing but blanks follows in the pattern.  Without what stands
behind it this is no escape, and with it the brace is no repetition. -/
def Stuck (flags : Flags) (cs : List Char) : Prop :=
  ∃ rest, cs = '\x7b' :: rest ∧ flags.skip rest = closing

theorem readEdge_of_head? (flags : Flags) {cs : List Char} (h : cs.head? ≠ some '\x7b') :
    readEdge flags cs = .ok (.edge (Class.wordFor flags), cs) := by
  unfold readEdge
  split
  · exact absurd rfl h
  · rfl

theorem readEdge_agrees (flags : Flags) (cs : List Char) :
    Agrees (fun _ rest => Beyond rest ∨ Stuck flags rest) cs.length (readEdge flags cs)
      (readEdge flags (cs ++ closing)) := by
  by_cases hbrace : cs.head? = some '\x7b'
  · obtain ⟨rest, rfl⟩ := List.head?_eq_some_iff.mp hbrace
    rw [List.cons_append, readEdge, readEdge]
    rcases flags.skip_append rest with heq | ⟨heq, -⟩
    · have hle := flags.length_skip_le rest
      rw [heq]
      generalize flags.skip rest = inside at hle heq ⊢
      cases inside with
      | nil => exact (Loses.ok (.inr ⟨_, rfl, heq⟩)).agrees _ _
      | cons c more =>
          rw [List.cons_append]
          dsimp only
          split
          · refine ((takeBraced_agrees flags (Nat.lt_succ_self _)).mono hle).bind
              (fun name after hafter => ?_) (fun name after hbeyond => ?_)
            · dsimp only
              split
              · exact .ok (Nat.le_succ_of_le hafter)
              · exact .error _
            · dsimp only
              split
              · exact .ok (.inl hbeyond)
              · exact .error _
          · exact .ok (Nat.le_refl _)
    · rw [heq]
      exact .error _
  · have hbrace' : (cs ++ closing).head? ≠ some '\x7b' := by
      cases cs with
      | nil => decide
      | cons c cs => exact hbrace
    rw [readEdge_of_head? flags hbrace, readEdge_of_head? flags hbrace']
    exact .ok (Nat.le_refl _)

/-- What is lost behind a backslash. -/
def LostEscape (flags : Flags) (atom : Atom) (rest : List Char) : Prop :=
  Beyond rest ∨ (∃ p, atom = .place p) ∧ Stuck flags rest

theorem readEscape_cons_agrees (flags : Flags) (c : Char) (cs : List Char) :
    Agrees (LostEscape flags) cs.length (readEscape flags (c :: cs))
      (readEscape flags (c :: (cs ++ closing))) := by
  have hplain (atom : Atom) :
      Agrees (LostEscape flags) cs.length (.ok (atom, cs)) (.ok (atom, cs ++ closing)) :=
    .ok (Nat.le_refl _)
  have hcode (raw : Bool) {width : Nat} (h : 0 < width) :
      Agrees (LostEscape flags) cs.length
        ((readCode flags width cs).map fun r => (.char r.1 raw, r.2))
        ((readCode flags width (cs ++ closing)).map fun r => (.char r.1 raw, r.2)) :=
    (readCode_agrees flags h cs).map (f := fun d => Atom.char d raw) fun _ _ => .inl
  unfold readEscape
  dsimp only
  split
  case h_1 =>
    have hraw : ((flags.skip (cs ++ closing)).head? != some '\x7b') =
        ((flags.skip cs).head? != some '\x7b') := by
      rw [Bool.eq_iff_iff, bne_iff_ne, bne_iff_ne, Ne, Ne, head?_skip_append (by decide) flags cs]
    rw [hraw]
    exact hcode _ (by decide)
  case h_2 => exact hcode false (by decide)
  case h_3 => exact hcode false (by decide)
  case h_4 => exact (readProperty_agrees flags false cs).map fun _ _ => .inl
  case h_5 => exact (readProperty_agrees flags true cs).map fun _ _ => .inl
  case h_14 =>
    refine (readEdge_agrees flags cs).map fun p rest => ?_
    exact Or.imp_right fun hstuck => ⟨⟨p, rfl⟩, hstuck⟩
  case h_18 =>
    split
    · exact hplain _
    · split
      · exact .error _
      · split
        · exact hplain _
        · exact .error _
  all_goals exact hplain _

/-- A backslash at the end of a pattern takes the parenthesis behind it. -/
theorem readEscape_agrees (flags : Flags) (cs : List Char) :
    Agrees (LostEscape flags) cs.length (readEscape flags cs)
      (readEscape flags (cs ++ closing)) := by
  cases cs with
  | nil =>
      have hparenthesis : readEscape flags closing = .ok (.char ')' false, ['$']) := rfl
      rw [List.nil_append, hparenthesis]
      exact (Loses.ok (.inl (.inr rfl))).agrees _ _
  | cons c cs => exact (readEscape_cons_agrees flags c cs).mono (Nat.le_succ _)

end AttributeRelease.Pattern
