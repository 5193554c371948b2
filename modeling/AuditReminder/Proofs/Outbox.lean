/-
The outbox as a log.

A message is one line of JSON, and a line holds no newline but the one that ends it.  Whatever
fails, the text on a sink therefore stays a sequence of complete lines: a message comes to nothing
or adds its own line at the end, on which its recipients, its subject and its body can be read
(`Message.IsOnLine`).  How a message ends tells which:

    taken             line written
    flush failed      line written
    write failed      nothing
    no recipients     nothing

A failed flush is told as a fault although the line stays; no other fault leaves anything behind
(`Sink.written_of_fault`).

`Outbox` is a sink whose limits are set anew for each message, so writes and flushes fail at any of
them and work again at any other.  Main statements: `IsLogOf.unique`, by which the text of a log
tells its messages, and `Outbox.isLogOf_sendAll`.
-/
import AuditReminder.Outbox
import AuditReminder.Proofs.Json.Values
import Mathlib.Data.List.Forall2

namespace AuditReminder

open Document

/-! ## Logs -/

/-- The line is a JSON object of three fields: the recipients of the message, each of them once and
in increasing order, its subject, and its body. -/
def Message.IsOnLine (line : String) (m : Message) : Prop :=
  ∃ names : List String, names.Pairwise (· < ·) ∧ (∀ name, name ∈ names ↔ name ∈ m.recipients) ∧
    Decode.source (fun _ node => Decode.json Decode.maxLevels node) line
      = .ok (.object [("to", .list (names.map .text)), ("subject", .text m.subject),
          ("body", .text m.body)])

/-- The text is a log of the messages: a line for each of them, in their order, on which the message
can be read and which holds no newline but the one at its end. -/
def IsLogOf (text : String) (messages : List Message) : Prop :=
  ∃ lines : List String, text = String.join (lines.map (· ++ "\n")) ∧
    (∀ line ∈ lines, '\n' ∉ line.toList) ∧ List.Forall₂ Message.IsOnLine lines messages

namespace Message

theorem plain_toJson (m : Message) : m.toJson.Plain Decode.maxLevels :=
  ⟨by decide, NameSet.plain_toJson (by decide) m.recipients, trivial, trivial, trivial⟩

theorem isOnLine_compact (m : Message) : m.IsOnLine m.toJson.compact :=
  ⟨m.recipients.names, m.recipients.increasing, fun _ => Iff.rfl,
    Json.source_compact m.plain_toJson⟩

/-- A line tells its message. -/
theorem isOnLine_unique : Relator.RightUnique IsOnLine := by
  rintro line m m' ⟨names, hincreasing, hnames, hread⟩ ⟨names', hincreasing', hnames', hread'⟩
  have hfields := Except.ok.inj (hread.symm.trans hread')
  simp only [Json.object.injEq, List.cons.injEq, Prod.mk.injEq, Json.list.injEq, Json.text.injEq,
    and_true, true_and] at hfields
  obtain ⟨hmap, hsubject, hbody⟩ := hfields
  obtain rfl := (List.map_inj_right fun _ _ => Json.text.inj).mp hmap
  have hrecipients : m.recipients = m'.recipients :=
    NameSet.eq_of_mem_iff fun name => (hnames name).symm.trans (hnames' name)
  cases m
  cases m'
  cases hrecipients
  cases hsubject
  cases hbody
  rfl

end Message

namespace IsLogOf

theorem nil : IsLogOf "" [] := ⟨[], rfl, nofun, .nil⟩

theorem line (m : Message) : IsLogOf m.line [m] := by
  refine ⟨[m.toJson.compact], by simp [Message.line, String.join], ?_,
    .cons m.isOnLine_compact .nil⟩
  intro line hline
  obtain rfl := List.mem_singleton.mp hline
  exact Json.newline_not_mem_compact m.plain_toJson

theorem append {text text' : String} {messages messages' : List Message}
    (h : IsLogOf text messages) (h' : IsLogOf text' messages') :
    IsLogOf (text ++ text') (messages ++ messages') := by
  obtain ⟨lines, rfl, hclean, hread⟩ := h
  obtain ⟨lines', rfl, hclean', hread'⟩ := h'
  refine ⟨lines ++ lines', ?_, ?_, List.rel_append hread hread'⟩
  · rw [List.map_append, String.join_append]
  · intro line hline
    rcases List.mem_append.mp hline with hline | hline
    · exact hclean line hline
    · exact hclean' line hline

/-- A line ends at the first newline. -/
theorem line_unique {line line' rest rest' : List Char} (h : '\n' ∉ line) (h' : '\n' ∉ line')
    (he : line ++ '\n' :: rest = line' ++ '\n' :: rest') : line = line' ∧ rest = rest' := by
  induction line generalizing line' with
  | nil =>
      cases line' with
      | nil => exact ⟨rfl, List.tail_eq_of_cons_eq he⟩
      | cons c line' =>
          have hc : '\n' = c := List.head_eq_of_cons_eq he
          exact (h' (hc ▸ List.mem_cons_self)).elim
  | cons c line ih =>
      cases line' with
      | nil =>
          have hc : c = '\n' := List.head_eq_of_cons_eq he
          exact (h (hc ▸ List.mem_cons_self)).elim
      | cons c' line' =>
          rw [List.cons_append, List.cons_append] at he
          obtain ⟨rfl, htail⟩ := List.cons_eq_cons.mp he
          obtain ⟨rfl, hrest⟩ := ih (fun hm => h (List.mem_cons_of_mem _ hm))
            (fun hm => h' (List.mem_cons_of_mem _ hm)) htail
          exact ⟨rfl, hrest⟩

theorem lines_unique {lines lines' : List String} (h : ∀ line ∈ lines, '\n' ∉ line.toList)
    (h' : ∀ line ∈ lines', '\n' ∉ line.toList)
    (he : String.join (lines.map (· ++ "\n")) = String.join (lines'.map (· ++ "\n"))) :
    lines = lines' := by
  have hchars (lines : List String) : (String.join (lines.map (· ++ "\n"))).toList
      = lines.flatMap fun line => line.toList ++ ['\n'] := by
    induction lines with
    | nil => rfl
    | cons line lines ih => simp [ih]
  replace he := (hchars lines).symm.trans ((congrArg String.toList he).trans (hchars lines'))
  induction lines generalizing lines' with
  | nil =>
      cases lines' with
      | nil => rfl
      | cons line' lines' => simp at he
  | cons line lines ih =>
      cases lines' with
      | nil => simp at he
      | cons line' lines' =>
          rw [List.flatMap_cons, List.flatMap_cons, List.append_assoc, List.append_assoc] at he
          obtain ⟨hline, hrest⟩ := line_unique (h line List.mem_cons_self)
            (h' line' List.mem_cons_self) he
          rw [String.toList_inj.mp hline, ih (fun l hl => h l (List.mem_cons_of_mem _ hl))
            (fun l hl => h' l (List.mem_cons_of_mem _ hl)) hrest]

/-- The text of a log tells its messages. -/
theorem unique {text : String} {messages messages' : List Message} (h : IsLogOf text messages)
    (h' : IsLogOf text messages') : messages = messages' := by
  obtain ⟨lines, hjoin, hclean, hread⟩ := h
  obtain ⟨lines', hjoin', hclean', hread'⟩ := h'
  obtain rfl := lines_unique hclean hclean' (hjoin.symm.trans hjoin')
  exact List.right_unique_forall₂' Message.isOnLine_unique hread hread'

/-- The lines of messages, one after the other, are a log of them. -/
theorem lines (messages : List Message) :
    IsLogOf (String.join (messages.map Message.line)) messages := by
  induction messages with
  | nil => exact nil
  | cons m messages ih =>
      have hcons : String.join ((m :: messages).map Message.line)
          = m.line ++ String.join (messages.map Message.line) := by simp
      rw [hcons]
      exact (line m).append ih

end IsLogOf

/-! ## One message -/

namespace Sink

/-- What is told of a write that fails. -/
def unwritten : DeliveryFault := .transport "closed"

/-- What is told of a flush that fails. -/
def unflushed : DeliveryFault := .transport "disk full"

/-- The line of a message that ended so is on the sink. -/
def leavesLine : Except DeliveryFault Unit → Bool
  | .ok _ => true
  | .error fault => fault == unflushed

variable (sink : Sink) (m : Message)

/-- The four ways in which a message ends. -/
theorem send_cases :
    (m.recipients.isEmpty = true ∧ sink.send m = (.error .noRecipients, sink)) ∨
    (m.recipients.isEmpty = false ∧ reached sink.writesFailFrom sink.flushes = true ∧
      sink.send m = (.error unwritten, sink)) ∨
    (m.recipients.isEmpty = false ∧ reached sink.writesFailFrom sink.flushes = false ∧
      reached sink.flushesFailFrom sink.flushes = true ∧
      sink.send m = (.error unflushed, { sink with written := sink.written ++ m.line })) ∨
    (m.recipients.isEmpty = false ∧ reached sink.writesFailFrom sink.flushes = false ∧
      reached sink.flushesFailFrom sink.flushes = false ∧
      sink.send m = (.ok (), { sink with
        written := sink.written ++ m.line
        flushes := sink.flushes + 1 })) := by
  cases hempty : m.recipients.isEmpty
  · cases hwrite : reached sink.writesFailFrom sink.flushes
    · cases hflush : reached sink.flushesFailFrom sink.flushes
      · exact Or.inr (Or.inr (Or.inr ⟨rfl, rfl, rfl, by simp [send, put, hempty, hwrite, hflush]⟩))
      · exact Or.inr (Or.inr (Or.inl
          ⟨rfl, rfl, rfl, by simp [send, put, hempty, hwrite, hflush, unflushed]⟩))
    · exact Or.inr (Or.inl ⟨rfl, rfl, by simp [send, put, hempty, hwrite, unwritten]⟩)
  · exact Or.inl ⟨rfl, by simp [send, hempty]⟩

/-- A message adds its line at the end of the text, or nothing. -/
theorem written_send :
    (sink.send m).2.written
      = sink.written ++ if leavesLine (sink.send m).1 then m.line else "" := by
  rcases sink.send_cases m with ⟨-, h⟩ | ⟨-, -, h⟩ | ⟨-, -, -, h⟩ | ⟨-, -, -, h⟩
  · rw [h]
    exact (String.append_empty).symm
  · rw [h]
    exact (String.append_empty).symm
  · rw [h]
    rfl
  · rw [h]
    rfl

/-- When a fault is told and it is not the flush that fails, the text is as it was. -/
theorem written_of_fault {fault : DeliveryFault} (h : (sink.send m).1 = .error fault)
    (hflush : reached sink.flushesFailFrom sink.flushes = false) :
    (sink.send m).2.written = sink.written := by
  rcases sink.send_cases m with ⟨-, hs⟩ | ⟨-, -, hs⟩ | ⟨-, -, hfails, -⟩ | ⟨-, -, -, hs⟩
  · rw [hs]
  · rw [hs]
  · rw [hflush] at hfails
    cases hfails
  · rw [hs] at h
    cases h

/-- The line is written exactly if there are recipients and the write does not fail. -/
theorem leavesLine_iff :
    leavesLine (sink.send m).1 = true ↔
      m.recipients.isEmpty = false ∧ reached sink.writesFailFrom sink.flushes = false := by
  rcases sink.send_cases m with ⟨hr, h⟩ | ⟨hr, hw, h⟩ | ⟨hr, hw, -, h⟩ | ⟨hr, hw, -, h⟩ <;>
    simp [leavesLine, unwritten, unflushed, *]

/-- A message is taken exactly if its line is written and the flush does not fail. -/
theorem send_eq_ok_iff :
    (sink.send m).1 = .ok () ↔
      leavesLine (sink.send m).1 = true ∧ reached sink.flushesFailFrom sink.flushes = false := by
  rcases sink.send_cases m with ⟨hr, h⟩ | ⟨hr, hw, h⟩ | ⟨hr, hw, hf, h⟩ | ⟨hr, hw, hf, h⟩ <;>
    simp [leavesLine, unwritten, unflushed, *]

/-- Without a limit no flush fails. -/
theorem send_ne_unflushed (h : sink.flushesFailFrom = none) :
    (sink.send m).1 ≠ .error unflushed := by
  intro hfault
  have hleft : leavesLine (sink.send m).1 = true := by rw [hfault]; rfl
  have hflush : reached sink.flushesFailFrom sink.flushes = false := by rw [h]; rfl
  have hok := (sink.send_eq_ok_iff m).mpr ⟨hleft, hflush⟩
  rw [hfault] at hok
  cases hok

end Sink

/-! ## Many messages -/

/-- From which flush on writes and flushes fail. -/
structure Limits where
  writes : Option Nat
  flushes : Option Nat

/-- The sink with other limits. -/
def Sink.under (sink : Sink) (limits : Limits) : Sink :=
  { sink with writesFailFrom := limits.writes, flushesFailFrom := limits.flushes }

/-- A sink, and how many messages were handed to it. -/
structure Outbox where
  sink : Sink
  handed : Nat

namespace Outbox

/-- The outbox of a sink to which nothing was handed yet. -/
def on (sink : Sink) : Outbox := ⟨sink, 0⟩

/-- Hands a message on, under the limits that hold for it. -/
def send (limits : Nat → Limits) (m : Message) (out : Outbox) :
    Except DeliveryFault Unit × Outbox :=
  let (answer, sink) := (out.sink.under (limits out.handed)).send m
  (answer, ⟨sink, out.handed + 1⟩)

/-- Hands messages on one after the other, and tells how each of them ended. -/
def sendAll (limits : Nat → Limits) :
    List Message → Outbox → List (Message × Except DeliveryFault Unit) × Outbox
  | [], out => ([], out)
  | m :: rest, out =>
      let (answer, out) := send limits m out
      let (ended, out) := sendAll limits rest out
      ((m, answer) :: ended, out)

/-- The messages whose lines were written. -/
def left (ended : List (Message × Except DeliveryFault Unit)) : List Message :=
  (ended.filter fun e => Sink.leavesLine e.2).map Prod.fst

variable (limits : Nat → Limits)

theorem written_send (m : Message) (out : Outbox) :
    (send limits m out).2.sink.written
      = out.sink.written ++ if Sink.leavesLine (send limits m out).1 then m.line else "" :=
  (out.sink.under (limits out.handed)).written_send m

theorem written_sendAll (messages : List Message) (out : Outbox) :
    (sendAll limits messages out).2.sink.written = out.sink.written ++
      String.join ((left (sendAll limits messages out).1).map Message.line) := by
  induction messages generalizing out with
  | nil => exact (String.append_empty).symm
  | cons m rest ih =>
      have hcons : left (sendAll limits (m :: rest) out).1
          = (if Sink.leavesLine (send limits m out).1 then [m] else [])
            ++ left (sendAll limits rest (send limits m out).2).1 := by
        rw [sendAll, left, List.filter_cons]
        split <;> rfl
      rw [hcons, List.map_append, String.join_append]
      refine (ih (send limits m out).2).trans ?_
      rw [written_send, String.append_assoc]
      split <;> simp

theorem messages_sendAll (messages : List Message) (out : Outbox) :
    (sendAll limits messages out).1.map Prod.fst = messages := by
  induction messages generalizing out with
  | nil => rfl
  | cons m rest ih => exact congrArg (m :: ·) (ih _)

variable {limits} in
/-- Whatever fails, what was a log is one: the messages whose lines were written are added to it. -/
theorem isLogOf_sendAll {messages earlier : List Message} {out : Outbox}
    (h : IsLogOf out.sink.written earlier) :
    IsLogOf (sendAll limits messages out).2.sink.written
      (earlier ++ left (sendAll limits messages out).1) := by
  rw [written_sendAll]
  exact h.append (.lines _)

end Outbox

end AuditReminder
