import CryoController.Foundations.Transition

/-!
# Programs that talk to a device over a line

A program writes commands and reads lines back. The device's reply to a command
is queued on the line and arrives some bytes at a time, whenever it likes. A
read waits for its whole line, a guarded read may give up while nothing has
arrived, and a flush drops the bytes that have arrived. A program makes notes of
what it has learned.

`Safe` is the weakest precondition under which all notes are good. It speaks of
the commands written so far and of the bytes not yet read, and not of how many
of these have arrived, so it is proved without a thought for the delays.
-/

namespace LineTalk

/-- `discard stop` reads up to carriage returns until `stop` has seen what it
waits for; where `stop` has no value the program crashes. -/
inductive Talk (κ ν α : Type)
  | done (a : α)
  | crash
  | flush (next : Talk κ ν α)
  | write (cmd : κ) (next : Talk κ ν α)
  | readLine (next : List Char → Talk κ ν α)
  | rReadLine (next : Bool → Talk κ ν α)
  | discard (stop : List Char → Option Bool) (next : Talk κ ν α)
  | note (n : ν) (next : Talk κ ν α)

/-- The replies of the device, given the commands written before with the latest
first, and what the two kinds of read make of the bytes before a terminator. -/
structure Line (κ : Type) where
  reply : List κ → κ → List Char
  text : List Char → List Char
  textReturn : List Char → List Char

variable {κ ν α β ι : Type}

def Talk.bind : Talk κ ν α → (α → Talk κ ν β) → Talk κ ν β
  | .done a, f => f a
  | .crash, _ => .crash
  | .flush next, f => .flush (next.bind f)
  | .write cmd next, f => .write cmd (next.bind f)
  | .readLine next, f => .readLine fun line => (next line).bind f
  | .rReadLine next, f => .rReadLine fun stalled => (next stalled).bind f
  | .discard stop next, f => .discard stop (next.bind f)
  | .note n next, f => .note n (next.bind f)

def Talk.noteNow : Talk κ ν α → Option ν
  | .note n _ => some n
  | _ => none

def takeTo (stop : Char) : List Char → Option (List Char × List Char)
  | [] => none
  | c :: cs =>
    if c = stop then some ([], cs)
    else (takeTo stop cs).map fun (line, rest) => (c :: line, rest)

theorem takeTo_append {stop : Char} {line : List Char} (h : stop ∉ line) (rest : List Char) :
    takeTo stop (line ++ stop :: rest) = some (line, rest) := by
  induction line with
  | nil => rw [List.nil_append, takeTo, if_pos rfl]
  | cons c line ih =>
    obtain ⟨hc, hline⟩ := not_or.mp (mt List.mem_cons.mpr h)
    rw [List.cons_append, takeTo, if_neg (Ne.symm hc), ih hline]
    rfl

theorem eq_of_takeTo {stop : Char} {cs line rest : List Char}
    (h : takeTo stop cs = some (line, rest)) : cs = line ++ stop :: rest ∧ stop ∉ line := by
  induction cs generalizing line with
  | nil => cases h
  | cons c cs ih =>
    rw [takeTo] at h
    split_ifs at h with hc
    · cases h
      exact ⟨by rw [hc, List.nil_append], List.not_mem_nil⟩
    · obtain ⟨⟨line', rest'⟩, htake, heq⟩ := Option.map_eq_some_iff.mp h
      cases heq
      obtain ⟨hcs, hline⟩ := ih htake
      exact ⟨by rw [hcs, List.cons_append], mt List.mem_cons.mp (not_or.mpr ⟨Ne.symm hc, hline⟩)⟩

theorem append_cons_inj {stop : Char} {line line' rest rest' : List Char} (h : stop ∉ line)
    (h' : stop ∉ line') (heq : line ++ stop :: rest = line' ++ stop :: rest') :
    line = line' ∧ rest = rest' := by
  have htake := takeTo_append h rest
  rw [heq, takeTo_append h'] at htake
  obtain ⟨hline, hrest⟩ := Prod.mk.inj (Option.some.inj htake)
  exact ⟨hline.symm, hrest.symm⟩

structure Machine (κ ν α : Type) where
  written : List κ
  arrived : List Char
  flying : List Char
  program : Talk κ ν α

def Machine.unread (m : Machine κ ν α) : List Char := m.arrived ++ m.flying

inductive Event (ι : Type)
  | arrive (n : ℕ)
  | turn (i : ι) (givesUp : Bool)

section Step
variable (L : Line κ) (loop : α → ι → Talk κ ν α)

/-- A turn of the program. A program that has come to its end goes on with the
next round of its loop; one whose read has to wait stays where it is. -/
def turn (m : Machine κ ν α) (i : ι) (givesUp : Bool) : Machine κ ν α :=
  match m.program with
  | .done a => { m with program := loop a i }
  | .crash => m
  | .flush next => { m with arrived := [], program := next }
  | .write cmd next =>
    { m with
      written := cmd :: m.written
      flying := m.flying ++ L.reply m.written cmd
      program := next }
  | .readLine next =>
    match takeTo '\n' m.arrived with
    | some (line, rest) => { m with arrived := rest, program := next (L.text line) }
    | none => m
  | .rReadLine next =>
    match m.arrived with
    | [] => if givesUp then { m with program := next true } else m
    | _ :: cs =>
      -- the first byte is taken whatever it is
      match takeTo '\n' cs with
      | some (_, rest) => { m with arrived := rest, program := next false }
      | none => m
  | .discard stop next =>
    match takeTo '\r' m.arrived with
    | some (chunk, rest) =>
      match stop (L.textReturn chunk) with
      | none => { m with arrived := rest, program := .crash }
      | some true => { m with arrived := rest, program := next }
      | some false => { m with arrived := rest }
    | none => m
  | .note _ next => { m with program := next }

def step (m : Machine κ ν α) : Event ι → Machine κ ν α
  | .arrive n =>
    { m with arrived := m.arrived ++ m.flying.take n, flying := m.flying.drop n }
  | .turn i givesUp => turn L loop m i givesUp

end Step

inductive Discards (textReturn : List Char → List Char) (stop : List Char → Option Bool) :
    List Char → List Char → Prop
  | last {chunk rest : List Char} (hchunk : '\r' ∉ chunk)
      (hstop : stop (textReturn chunk) = some true) :
      Discards textReturn stop (chunk ++ '\r' :: rest) rest
  | more {chunk rest rest' : List Char} (hchunk : '\r' ∉ chunk)
      (hgo : stop (textReturn chunk) = some false) (h : Discards textReturn stop rest rest') :
      Discards textReturn stop (chunk ++ '\r' :: rest) rest'

theorem discards_iff {textReturn : List Char → List Char} {stop : List Char → Option Bool}
    {chunk rest rest' : List Char} (hchunk : '\r' ∉ chunk) :
    Discards textReturn stop (chunk ++ '\r' :: rest) rest' ↔
      (stop (textReturn chunk) = some true ∧ rest' = rest) ∨
        (stop (textReturn chunk) = some false ∧ Discards textReturn stop rest rest') := by
  constructor
  · intro h
    generalize hbytes : chunk ++ '\r' :: rest = bytes at h
    cases h with
    | last hchunk' hstop =>
      obtain ⟨rfl, rfl⟩ := append_cons_inj hchunk hchunk' hbytes
      exact Or.inl ⟨hstop, rfl⟩
    | more hchunk' hgo hrest =>
      obtain ⟨rfl, rfl⟩ := append_cons_inj hchunk hchunk' hbytes
      exact Or.inr ⟨hgo, hrest⟩
  · rintro (⟨hstop, rfl⟩ | ⟨hgo, hrest⟩)
    · exact .last hchunk hstop
    · exact .more hchunk hgo hrest

theorem not_discards {textReturn : List Char → List Char} {stop : List Char → Option Bool}
    {bytes rest : List Char} (hbytes : '\r' ∉ bytes) :
    ¬ Discards textReturn stop bytes rest := by
  intro h
  cases h with
  | last => exact hbytes (by simp)
  | more => exact hbytes (by simp)

section Safe
variable (L : Line κ) (mayGiveUp : List κ → Prop) (good : List κ → ν → Prop)

/-- All notes of the program are good, and it ends as `post` says, when guarded
reads give up only as they may. -/
def Safe (post : α → List κ → List Char → Prop) :
    Talk κ ν α → List κ → List Char → Prop
  | .done a, written, unread => post a written unread
  | .crash, _, _ => True
  | .flush next, written, unread =>
    ∀ dropped rest, unread = dropped ++ rest → Safe post next written rest
  | .write cmd next, written, unread =>
    Safe post next (cmd :: written) (unread ++ L.reply written cmd)
  | .readLine next, written, unread =>
    ∀ line rest, unread = line ++ '\n' :: rest → '\n' ∉ line →
      Safe post (next (L.text line)) written rest
  | .rReadLine next, written, unread =>
    (mayGiveUp written → Safe post (next true) written unread) ∧
      ∀ c line rest, unread = c :: (line ++ '\n' :: rest) → '\n' ∉ line →
        Safe post (next false) written rest
  | .discard stop next, written, unread =>
    ∀ rest, Discards L.textReturn stop unread rest → Safe post next written rest
  | .note n next, written, unread => good written n ∧ Safe post next written unread

variable {L mayGiveUp good}

theorem safe_bind {post : β → List κ → List Char → Prop} {t : Talk κ ν α}
    {f : α → Talk κ ν β} {written : List κ} {unread : List Char} :
    Safe L mayGiveUp good post (t.bind f) written unread ↔
      Safe L mayGiveUp good (fun a => Safe L mayGiveUp good post (f a)) t written unread := by
  induction t generalizing written unread with
  | done a => exact Iff.rfl
  | crash => exact Iff.rfl
  | flush next ih =>
    apply forall_congr'
    intro dropped
    apply forall_congr'
    intro rest
    exact imp_congr_right fun _ => ih
  | write cmd next ih => exact ih
  | readLine next ih =>
    apply forall_congr'
    intro line
    apply forall_congr'
    intro rest
    exact imp_congr_right fun _ => imp_congr_right fun _ => ih _
  | rReadLine next ih =>
    apply and_congr
    · exact imp_congr_right fun _ => ih true
    · apply forall_congr'
      intro c
      apply forall_congr'
      intro line
      apply forall_congr'
      intro rest
      exact imp_congr_right fun _ => imp_congr_right fun _ => ih false
  | discard stop next ih =>
    apply forall_congr'
    intro rest
    exact imp_congr_right fun _ => ih
  | note n next ih => exact and_congr_right fun _ => ih

theorem Safe.mono {post post' : α → List κ → List Char → Prop}
    (hpost : ∀ a written unread, post a written unread → post' a written unread)
    {t : Talk κ ν α} {written : List κ} {unread : List Char}
    (h : Safe L mayGiveUp good post t written unread) :
    Safe L mayGiveUp good post' t written unread := by
  induction t generalizing written unread with
  | done a => exact hpost a written unread h
  | crash => trivial
  | flush next ih => exact fun dropped rest heq => ih (h dropped rest heq)
  | write cmd next ih => exact ih h
  | readLine next ih => exact fun line rest heq hline => ih _ (h line rest heq hline)
  | rReadLine next ih =>
    exact ⟨fun hmay => ih true (h.1 hmay),
      fun c line rest heq hline => ih false (h.2 c line rest heq hline)⟩
  | discard stop next ih => exact fun rest hrest => ih (h rest hrest)
  | note n next ih => exact ⟨h.1, ih h.2⟩

theorem safe_readLine {post : α → List κ → List Char → Prop} {next : List Char → Talk κ ν α}
    {written : List κ} {line rest : List Char} (hline : '\n' ∉ line)
    (h : Safe L mayGiveUp good post (next (L.text line)) written rest) :
    Safe L mayGiveUp good post (.readLine next) written (line ++ '\n' :: rest) := by
  intro line' rest' heq hline'
  obtain ⟨rfl, rfl⟩ := append_cons_inj hline hline' heq
  exact h

theorem safe_rReadLine {post : α → List κ → List Char → Prop} {next : Bool → Talk κ ν α}
    {written : List κ} {line rest : List Char} (hne : line ≠ []) (hline : '\n' ∉ line)
    (hstall : mayGiveUp written →
      Safe L mayGiveUp good post (next true) written (line ++ '\n' :: rest))
    (h : Safe L mayGiveUp good post (next false) written rest) :
    Safe L mayGiveUp good post (.rReadLine next) written (line ++ '\n' :: rest) := by
  refine ⟨hstall, ?_⟩
  intro c line' rest' heq hline'
  obtain ⟨first, line, rfl⟩ := List.exists_cons_of_ne_nil hne
  obtain ⟨-, heq⟩ := List.cons.inj heq
  obtain ⟨-, rfl⟩ := append_cons_inj (fun hmem => hline (List.mem_cons_of_mem _ hmem)) hline' heq
  exact h

end Safe

section Run
variable {L : Line κ} {loop : α → ι → Talk κ ν α} {mayGiveUp : List κ → Prop}
  {good : List κ → ν → Prop} {post : α → List κ → List Char → Prop}

def GivesUpOnly (mayGiveUp : List κ → Prop) (m : Machine κ ν α) (ev : Event ι) : Prop :=
  ∀ i next, ev = .turn i true → m.program = .rReadLine next → m.arrived = [] →
    mayGiveUp m.written

def NotesWell (good : List κ → ν → Prop) (m : Machine κ ν α) (_ : Event ι) : Prop :=
  ∀ n ∈ m.program.noteNow, good m.written n

def Machine.Safe (L : Line κ) (mayGiveUp : List κ → Prop) (good : List κ → ν → Prop)
    (post : α → List κ → List Char → Prop) (m : Machine κ ν α) : Prop :=
  LineTalk.Safe L mayGiveUp good post m.program m.written m.unread

theorem arrive_unread (m : Machine κ ν α) (n : ℕ) :
    (step L loop m (.arrive n)).unread = m.unread := by
  simp only [step, Machine.unread, List.append_assoc, List.take_append_drop]

theorem turn_safe (hloop : ∀ a written unread i, post a written unread →
      Safe L mayGiveUp good post (loop a i) written unread)
    {m : Machine κ ν α} (h : m.Safe L mayGiveUp good post) {i : ι} {givesUp : Bool}
    (hpatient : GivesUpOnly mayGiveUp m (.turn i givesUp)) :
    (turn L loop m i givesUp).Safe L mayGiveUp good post := by
  obtain ⟨written, arrived, flying, program⟩ := m
  change LineTalk.Safe L mayGiveUp good post program written (arrived ++ flying) at h
  cases program with
  | done a => exact hloop a written _ i h
  | crash => exact h
  | flush next => exact h arrived flying rfl
  | write cmd next =>
    rw [LineTalk.Safe, List.append_assoc] at h
    exact h
  | readLine next =>
    rw [turn]
    cases htake : takeTo '\n' arrived with
    | none => exact h
    | some found =>
      obtain ⟨line, rest⟩ := found
      obtain ⟨rfl, hline⟩ := eq_of_takeTo htake
      exact h line (rest ++ flying) (List.append_assoc _ _ _) hline
  | rReadLine next =>
    rw [turn]
    cases arrived with
    | nil =>
      cases givesUp with
      | true => exact h.1 (hpatient i next rfl rfl rfl)
      | false => exact h
    | cons c cs =>
      simp only
      cases htake : takeTo '\n' cs with
      | none => exact h
      | some found =>
        obtain ⟨line, rest⟩ := found
        obtain ⟨rfl, hline⟩ := eq_of_takeTo htake
        refine h.2 c line (rest ++ flying) ?_ hline
        rw [List.cons_append, List.append_assoc, List.cons_append]
  | discard stop next =>
    rw [turn]
    cases htake : takeTo '\r' arrived with
    | none => exact h
    | some found =>
      obtain ⟨chunk, rest⟩ := found
      obtain ⟨rfl, hchunk⟩ := eq_of_takeTo htake
      rw [List.append_assoc, List.cons_append] at h
      simp only
      cases hstop : stop (L.textReturn chunk) with
      | none => trivial
      | some stops =>
        cases stops with
        | true => exact h (rest ++ flying) (.last hchunk hstop)
        | false => exact fun rest' hrest => h rest' (.more hchunk hstop hrest)
  | note n next => exact h.2

theorem step_safe (hloop : ∀ a written unread i, post a written unread →
      Safe L mayGiveUp good post (loop a i) written unread)
    (m : Machine κ ν α) (ev : Event ι) (h : m.Safe L mayGiveUp good post)
    (hpatient : GivesUpOnly mayGiveUp m ev) :
    (step L loop m ev).Safe L mayGiveUp good post := by
  cases ev with
  | arrive n =>
    rw [Machine.Safe, arrive_unread]
    exact h
  | turn i givesUp => exact turn_safe hloop h hpatient

theorem notesWell_of_safe (m : Machine κ ν α) (ev : Event ι)
    (h : m.Safe L mayGiveUp good post) : NotesWell good m ev := by
  intro n hnote
  obtain ⟨written, arrived, flying, program⟩ := m
  cases program with
  | note n' next =>
    cases hnote
    exact h.1
  | _ => cases hnote

theorem givesUpOnly_of_notMem {m : Machine κ ν α} {evs : List (Event ι)}
    (h : ∀ i, .turn i true ∉ evs) :
    Transition.Along (step L loop) (GivesUpOnly mayGiveUp) m evs := by
  induction evs generalizing m with
  | nil => trivial
  | cons ev evs ih =>
    refine ⟨?_, ih fun i hmem => h i (List.mem_cons_of_mem _ hmem)⟩
    intro i next hev
    exact absurd (hev ▸ List.mem_cons_self) (h i)

/-- A loop whose rounds keep `post`, started safely, makes good notes only in
every run, whatever the delays, in which guarded reads give up as they may. -/
theorem run_notesWell (hloop : ∀ a written unread i, post a written unread →
      Safe L mayGiveUp good post (loop a i) written unread)
    {m : Machine κ ν α} (h : m.Safe L mayGiveUp good post) {evs : List (Event ι)}
    (hpatient : Transition.Along (step L loop) (GivesUpOnly mayGiveUp) m evs) :
    Transition.Along (step L loop) (NotesWell good) m evs :=
  Transition.along_mono (step_safe hloop) (fun m ev hm _ => notesWell_of_safe m ev hm) h hpatient

end Run
end LineTalk
