import SqlCompose.Proofs.Session.Template
import SqlCompose.Query.Operand
import SqlCompose.Session.Basic
/-!
# Filling as a session

Filling a fragment from an allocator is itself a session (`Fragment.session`), and so is
filling what was compiled (`Compiled.session`), where a rejection binds what stood in
front of it and then fails. The lemmas below say what these sessions do, one for each
way of making a fragment: text is written, a slot is bound, fragments in a row are
written one behind the other.
-/

namespace SqlCompose

theorem Text.isEmpty_append (s s' : String) : (s ++ s').isEmpty = (s.isEmpty && s'.isEmpty) := by
  rw [Bool.eq_iff_iff, Bool.and_eq_true, String.isEmpty_iff, String.isEmpty_iff,
    String.isEmpty_iff]
  exact String.append_eq_empty_iff

theorem placeholderName_ne_empty (n : Nat) : placeholderName n ≠ "" := by
  intro h
  simpa [placeholderName] using congrArg String.toList h

/-- The session that fills a fragment. -/
def Fragment.session (f : Fragment) : Session String :=
  ExceptT.mk fun a => (.ok (Fragment.fill a f).1, (Fragment.fill a f).2)

/-- The session that fills what was compiled. -/
def Compiled.session (c : Compiled) : Session String :=
  ExceptT.mk fun a => c.fill a

namespace Fragment

variable {f g : Fragment} {a : Allocator}

@[simp] theorem fill_nil (a : Allocator) : fill a [] = ("", a) := rfl

@[simp] theorem fill_text_cons (s : String) (f : Fragment) (a : Allocator) :
    fill a (.text s :: f) = (s ++ (fill a f).1, (fill a f).2) := rfl

@[simp] theorem fill_slot_cons (v : Value) (f : Fragment) (a : Allocator) :
    fill a (.slot v :: f) = ((a.bind v).1 ++ (fill (a.bind v).2 f).1, (fill (a.bind v).2 f).2) :=
  rfl

theorem fill_append (f g : Fragment) (a : Allocator) :
    fill a (f ++ g) = ((fill a f).1 ++ (fill (fill a f).2 g).1, (fill (fill a f).2 g).2) := by
  induction f generalizing a with
  | nil => simp
  | cons p f ih =>
    cases p with
    | text s => rw [List.cons_append, fill_text_cons, ih, fill_text_cons, String.append_assoc]
    | slot v => rw [List.cons_append, fill_slot_cons, ih, fill_slot_cons, String.append_assoc]

/-! ### Empty fragments -/

/-- A fragment that is no text at all binds nothing. -/
theorem fill_of_isEmpty (h : isEmpty f = true) : fill a f = ("", a) := by
  induction f with
  | nil => rfl
  | cons p f ih =>
    cases p with
    | text s =>
      obtain ⟨hs, hf⟩ : s = "" ∧ isEmpty f = true := by simpa [isEmpty] using h
      rw [fill_text_cons, ih hf, hs, String.append_empty]
    | slot v => simp [isEmpty] at h

/-- The fragments that are no text at all are those whose text is empty. -/
theorem isEmpty_fill (f : Fragment) (a : Allocator) : (fill a f).1.isEmpty = isEmpty f := by
  induction f generalizing a with
  | nil => rfl
  | cons p f ih =>
    cases p with
    | text s =>
      have hcons : isEmpty (.text s :: f) = (s.isEmpty && isEmpty f) := rfl
      rw [hcons, ← ih a, fill_text_cons, Text.isEmpty_append]
    | slot v =>
      have hcons : isEmpty (.slot v :: f) = false := rfl
      rw [hcons, fill_slot_cons, Text.isEmpty_append, a.bind_fst]
      simp [placeholderName_ne_empty]

/-! ### What the session of a fragment does -/

@[simp] theorem session_nil : session [] = pure "" := rfl

@[simp] theorem session_text (s : String) : (text s).session = pure s := by
  funext a
  change (Except.ok (s ++ ""), a) = (Except.ok s, a)
  rw [String.append_empty]

@[simp] theorem session_slot (v : Value) : (slot v).session = Session.slot v := by
  funext a
  change (Except.ok ((a.bind v).1 ++ ""), (a.bind v).2) = (Except.ok (a.bind v).1, (a.bind v).2)
  rw [String.append_empty]

@[simp] theorem session_append (f g : Fragment) :
    session (f ++ g) = session f >>= fun s => session g >>= fun s' => pure (s ++ s') := by
  funext a
  change (Except.ok (fill a (f ++ g)).1, (fill a (f ++ g)).2) = _
  rw [fill_append]
  rfl

/-- A value behind a text. -/
theorem session_text_slot (s : String) (v : Value) :
    (text s ++ slot v).session = Session.slot v >>= fun value => pure (s ++ value) := by
  rw [session_append, session_text, session_slot, pure_bind]

/-- A fragment between two texts. -/
theorem session_enclosed (s : String) (f : Fragment) (s' : String) :
    (text s ++ f ++ text s').session = f.session >>= fun sql => pure (s ++ sql ++ s') := by
  simp only [session_append, session_text, bind_assoc, pure_bind]

theorem session_join (separator : String) (fs : List Fragment) :
    (join separator fs).session =
      fs.mapM session >>= fun texts => pure (Text.join separator texts) := by
  induction fs with
  | nil => rfl
  | cons f rest ih =>
    cases rest with
    | nil => simp [join, Text.join]
    | cons g rest => simp [join, Text.join, ih, String.append_assoc]

/-- A test whether a text is empty is decided by the fragment. -/
theorem session_bind_ite {α : Type} (f : Fragment) (k k' : String → Session α) :
    (session f >>= fun s => if s.isEmpty then k s else k' s) =
      if isEmpty f then session f >>= k else session f >>= k' := by
  funext a
  change (if (fill a f).1.isEmpty then k (fill a f).1 else k' (fill a f).1) (fill a f).2 = _
  rw [isEmpty_fill]
  cases isEmpty f <;> rfl

theorem session_of_isEmpty (h : isEmpty f = true) : session f = pure "" := by
  funext a
  change (Except.ok (fill a f).1, (fill a f).2) = _
  rw [fill_of_isEmpty h]
  rfl

/-- Leaving empty texts out is leaving empty fragments out. -/
theorem mapM_session_filter (fs : List Fragment) :
    (fs.filter (!isEmpty ·)).mapM session =
      fs.mapM session >>= fun texts => pure (texts.filter (!·.isEmpty)) := by
  induction fs with
  | nil => rfl
  | cons f rest ih =>
    have hsplit : ((f :: rest).mapM session >>= fun texts => pure (texts.filter (!·.isEmpty))) =
        session f >>= fun s =>
          if s.isEmpty then
            rest.mapM session >>= fun texts => pure (texts.filter (!·.isEmpty))
          else
            rest.mapM session >>= fun texts => pure (s :: texts.filter (!·.isEmpty)) := by
      simp only [List.mapM_cons, bind_assoc, pure_bind]
      refine bind_congr fun s => ?_
      cases h : s.isEmpty <;> simp [h]
    -- the test on the text of the first fragment is a test on the fragment
    rw [hsplit, session_bind_ite]
    cases h : isEmpty f with
    | true => simp [h, ih, session_of_isEmpty h]
    | false => simp [h, ih]

/-- Filling binds the values of the slots, and nothing else. -/
theorem fill_snd (f : Fragment) (a : Allocator) : (fill a f).2 = (a.bindAll (values f)).2 := by
  induction f generalizing a with
  | nil => rfl
  | cons p f ih =>
    cases p with
    | text s => exact ih a
    | slot v => exact ih (a.bind v).2

end Fragment

theorem Allocator.bindAll_append_snd (a : Allocator) (vs vs' : List Value) :
    (a.bindAll (vs ++ vs')).2 = ((a.bindAll vs).2.bindAll vs').2 := by
  induction vs generalizing a with
  | nil => rfl
  | cons v vs ih => exact ih (a.bind v).2

namespace Compiled

/-! ### What the session of a compiled part does -/

@[simp] theorem session_ok (f : Fragment) : session (.ok f) = f.session := rfl

@[simp] theorem session_reject (e : Error) : session (reject e) = throw e := rfl

/-- Operands are read before anything is bound. -/
@[simp] theorem session_lift_bind {α : Type} (x : Except Error α) (k : α → Compiled) :
    session (lift x >>= k) = Session.lift x >>= fun v => session (k v) := by
  cases x <;> rfl

@[simp] theorem session_lift_map {α : Type} (x : Except Error α) (k : α → Fragment) :
    session ((lift x).map k) = Session.lift x >>= fun v => (k v).session := by
  cases x <;> rfl

/-- What is put around a fragment is written around it; a rejection stays one. -/
theorem session_map {F : Fragment → Fragment} {k : String → Session String}
    (h : ∀ f, (F f).session = f.session >>= k) (c : Compiled) :
    session (c.map F) = session c >>= k := by
  cases c with
  | ok f => exact h f
  | error r => rfl

/-- What was compiled, between two texts. -/
theorem session_enclosed (s : String) (c : Compiled) (s' : String) :
    session (c.map fun f => Fragment.text s ++ f ++ Fragment.text s') =
      session c >>= fun sql => pure (s ++ sql ++ s') :=
  session_map (fun f => Fragment.session_enclosed s f s') c

/-- The session that fills the fragments of parts in a row. -/
def sessions (x : Except Rejection (List Fragment)) : Session (List String) :=
  ExceptT.mk fun a => fillAll a x

theorem sessions_ok (fs : List Fragment) : sessions (.ok fs) = fs.mapM Fragment.session := by
  induction fs with
  | nil => rfl
  | cons f rest ih =>
    rw [List.mapM_cons, ← ih]
    rfl

/-- Parts in a row are written one behind the other up to the first that is refused, and
what stands in front of that one is bound. -/
theorem sessions_sequence (cs : List Compiled) : sessions (sequence cs) = cs.mapM session := by
  induction cs with
  | nil => rfl
  | cons c rest ih =>
    rw [List.mapM_cons, ← ih]
    cases c with
    | error r => rfl
    | ok f =>
      cases hrest : sequence rest with
      | ok fs =>
        rw [sequence, hrest]
        rfl
      | error r =>
        rw [sequence, hrest]
        funext a
        change (Except.error r.error, (a.bindAll (f.values ++ r.bound)).2) =
          (Except.error r.error, ((Fragment.fill a f).2.bindAll r.bound).2)
        -- what is bound in front of the rejection includes the first fragment
        rw [Allocator.bindAll_append_snd, Fragment.fill_snd]

/-- Parts that are each made from one item are written item by item. -/
theorem mapM_session_map {α β : Type} {F : α → Compiled} {G : α → β} {k : β → Session String}
    (h : ∀ x, session (F x) = k (G x)) (xs : List α) :
    (xs.map F).mapM session = (xs.map G).mapM k := by
  rw [List.mapM_map, List.mapM_map]
  exact congrArg (List.mapM · xs) (funext h)

theorem length_of_sequence_eq_ok {cs : List Compiled} {fs : List Fragment}
    (h : sequence cs = .ok fs) : fs.length = cs.length := by
  induction cs generalizing fs with
  | nil =>
    cases h
    rfl
  | cons c rest ih =>
    cases c with
    | error r => cases h
    | ok f =>
      cases hrest : sequence rest with
      | error r => rw [sequence, hrest] at h; cases h
      | ok fs' =>
        rw [sequence, hrest] at h
        cases h
        rw [List.length_cons, List.length_cons, ih hrest]

/-- What is made of fragments in a row is written when they are; a rejection stays
one. -/
theorem session_sequence_map {cs : List Compiled} {F : List Fragment → Fragment}
    {k : List String → Session String}
    (h : ∀ fs, fs.length = cs.length → (F fs).session = fs.mapM Fragment.session >>= k) :
    session ((sequence cs).map F) = cs.mapM session >>= k := by
  rw [← sessions_sequence]
  cases hcs : sequence cs with
  | ok fs =>
    rw [sessions_ok]
    exact h fs (length_of_sequence_eq_ok hcs)
  | error r => rfl

end Compiled

end SqlCompose
