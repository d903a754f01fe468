import RecipeResolver.Text.Hexadecimal

/-!
# The journal

Events worth telling about, and `Logged`: the outcome of a step together with the events on the way
to it. A failing step keeps the events before the failure. `Logged.result` commutes with
sequencing, so a statement about results can leave the events aside. In a line of the journal the
characters with which a message could command a terminal are shown as codes.
-/

namespace RecipeResolver

/-- How much an event matters. -/
inductive Level where
  | debug
  | info
  | warn
  deriving DecidableEq, Repr

/-- Something that happened. -/
structure Event where
  level : Level
  message : String
  deriving DecidableEq, Repr

namespace Event

/-- A detail for those who look closely. -/
def debug (message : String) : Event := ⟨.debug, message⟩

/-- A result. -/
def info (message : String) : Event := ⟨.info, message⟩

/-- Something that a person should look at. -/
def warn (message : String) : Event := ⟨.warn, message⟩

/-- A character of a message as the journal shows it. -/
def shownChar (c : Char) : List Char :=
  if c = '\x07' ∨ c = '\x08' ∨ c = '\x0c' ∨ c = '\x1b' ∨ c = '\x7f' then
    ['\\', 'x'] ++ Text.hexPair c.toNat
  else if 0x80 ≤ c.toNat ∧ c.toNat ≤ 0x9F then
    ['\\', 'u', '\x7b'] ++ Text.hexPair c.toNat ++ ['\x7d']
  else [c]

/-- The line of the journal: the level right-aligned in five columns, then the message. -/
def line (e : Event) : String :=
  (match e.level with | .debug => "DEBUG" | .info => " INFO" | .warn => " WARN") ++
    " " ++ String.ofList (e.message.toList.flatMap shownChar) ++ "\n"

end Event

/-- The outcome of a step and the events on the way to it. -/
structure Logged (ε α : Type) where
  events : List Event
  result : Except ε α

namespace Logged

variable {ε ε' α β : Type}

/-- A step that says these things and does nothing else. -/
def say (events : List Event) : Logged ε Unit :=
  ⟨events, .ok ()⟩

/-- A step that says nothing. -/
def lift (result : Except ε α) : Logged ε α :=
  ⟨[], result⟩

/-- Runs the second step on the value of the first one, if there is one. -/
def andThen (x : Logged ε α) (f : α → Logged ε β) : Logged ε β :=
  match x.result with
  | .ok a => ⟨x.events ++ (f a).events, (f a).result⟩
  | .error e => ⟨x.events, .error e⟩

instance : Monad (Logged ε) where
  pure a := ⟨[], .ok a⟩
  bind := andThen

/-- Changes the error. -/
def mapError (f : ε → ε') (x : Logged ε α) : Logged ε' α :=
  ⟨x.events, x.result.mapError f⟩

/-- Says more after the outcome is known. -/
def followedBy (x : Logged ε α) (f : Except ε α → List Event) : Logged ε α :=
  ⟨x.events ++ f x.result, x.result⟩

/-! ## Results without events -/

@[simp]
theorem result_bind (x : Logged ε α) (f : α → Logged ε β) :
    (x >>= f).result = x.result.bind fun a => (f a).result := by
  show (andThen x f).result = _
  unfold andThen
  cases x.result <;> rfl

@[simp]
theorem result_say (events : List Event) : (say events : Logged ε Unit).result = .ok () := rfl

@[simp]
theorem result_lift (r : Except ε α) : (lift r : Logged ε α).result = r := rfl

@[simp]
theorem result_foldlM (f : β → α → Logged ε β) (b : β) (entries : List α) :
    (entries.foldlM f b).result = entries.foldlM (fun b a => (f b a).result) b := by
  induction entries generalizing b with
  | nil => rfl
  | cons a rest ih =>
    rw [List.foldlM_cons, List.foldlM_cons, result_bind]
    exact congrArg (Except.bind (f b a).result) (funext ih)

end Logged

end RecipeResolver
