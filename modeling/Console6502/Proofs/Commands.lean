import Console6502.Proofs.Lockstep
import Console6502.Proofs.Runs

namespace Console6502

/-- What can be done with a memory and the two pointers. -/
inductive Sequencer.Operation
  | get (a : Address)
  | set (a : Address) (b : Byte)
  | setLow (a : Address) (w : Address)
  | peek (a : Address)
  | load (image : List Byte) (origin : Address)
  | next
  | push (b : Byte)
  | pull
  | jump (a : Address)
  | branch (condition : Bool) (a : Address)
  | setSp (sp : Byte)
  | call (a : Address)
  | ret

/-- What can be done to a machine, `κ` being what its host can do. -/
inductive Command (κ : Type)
  | load (image : List Byte) (origin : Address)
  | step
  | runFor (budget : Nat)
  | adjust (f : Cpu → Cpu)
  | storage (operation : Sequencer.Operation)
  | host (act : κ)

/-- A property of a bus that no access destroys. -/
structure Bus.Kept {M : Type} [Bus M] (P : M → Prop) : Prop where
  read : ∀ {bus}, P bus → ∀ a, P (Bus.read bus a).2
  write : ∀ {bus}, P bus → ∀ a b, P (Bus.write bus a b)
  peek : ∀ {bus}, P bus → ∀ a, P (Bus.peek bus a).2

variable {M κ : Type} [Bus M] {P : M → Prop}

theorem Bus.Kept.perform (kept : Bus.Kept P) (accesses : List Access) {bus : M} (h : P bus) :
    P (Bus.perform bus accesses) := by
  induction accesses generalizing bus with
  | nil => exact h
  | cons access accesses ih =>
    cases access with
    | read a => exact ih (kept.read h a)
    | write a b => exact ih (kept.write h a b)

namespace Sequencer

def apply (s : Sequencer M) : Operation → Sequencer M
  | .get a => (s.get a).2
  | .set a b => s.set a b
  | .setLow a w => s.setLow a w
  | .peek a => (s.peek a).2
  | .load image origin => s.load image origin
  | .next => s.next.2
  | .push b => s.push b
  | .pull => s.pull.2
  | .jump a => s.jump a
  | .branch condition a => s.branch condition a
  | .setSp sp => s.setSp sp
  | .call a => s.call a
  | .ret => s.ret

theorem load_kept (kept : Bus.Kept P) (image : List Byte) {s : Sequencer M} (h : P s.bus)
    (origin : Address) : P (s.load image origin).bus := by
  induction image generalizing s origin with
  | nil => exact h
  | cons b image ih => exact ih (kept.write h origin b) (origin + 1)

theorem apply_kept (kept : Bus.Kept P) {s : Sequencer M} (h : P s.bus) (operation : Operation) :
    P (s.apply operation).bus := by
  cases operation with
  | get a => exact kept.read h a
  | set a b => exact kept.write h a b
  | setLow a w => exact kept.write h a w.low
  | peek a => exact kept.peek h a
  | load image origin => exact load_kept kept image h origin
  | next => exact kept.read h s.pc
  | push b => exact kept.write h _ b
  | pull => exact kept.read h _
  | jump a => exact h
  | branch condition a =>
    cases condition with
    | true => exact h
    | false => exact h
  | setSp sp => exact h
  | call a => exact kept.write (kept.write h _ _) _ _
  | ret => exact kept.read (kept.read h _) _

end Sequencer

namespace Machine

theorem step_kept (kept : Bus.Kept P) {m : Machine M} (h : P m.core.seq.bus) :
    P m.step.machine.core.seq.bus := by
  rw [step_footprint]
  exact kept.perform m.footprint h

theorem after_kept (kept : Bus.Kept P) {m : Machine M} (h : P m.core.seq.bus) (k : Nat) :
    P (m.after k).core.seq.bus := by
  induction k with
  | zero => exact h
  | succ k ih => exact step_kept kept ih

/-- Does what a command says, when the host acts on the bus. -/
def obey (m : Machine M) (host : κ → M → M) : Command κ → Machine M
  | .load image origin => m.load image origin
  | .step => m.step.machine
  | .runFor budget => (m.runFor budget).2
  | .adjust f => m.withCpu f
  | .storage operation => m.withSeq (·.apply operation)
  | .host act => m.touch (host act)

def obeyAll (m : Machine M) (host : κ → M → M) (commands : List (Command κ)) : Machine M :=
  commands.foldl (obey · host) m

theorem obey_kept (kept : Bus.Kept P) {host : κ → M → M}
    (harmless : ∀ act {bus}, P bus → P (host act bus)) {m : Machine M} (h : P m.core.seq.bus)
    (command : Command κ) : P (m.obey host command).core.seq.bus := by
  cases command with
  | load image origin => exact Sequencer.load_kept kept image h origin
  | step => exact step_kept kept h
  | runFor budget =>
    obtain ⟨k, -, goes⟩ := runNoting_after (fun _ _ => ()) budget m ()
    change P (runNoting _ budget m ()).machine.core.seq.bus
    rw [goes]
    exact after_kept kept h k
  | adjust f => exact h
  | storage operation => exact Sequencer.apply_kept kept h operation
  | host act => exact harmless act h

/-- What no access and no host destroys holds after any commands. -/
theorem obeyAll_kept (kept : Bus.Kept P) {host : κ → M → M}
    (harmless : ∀ act {bus}, P bus → P (host act bus)) {m : Machine M} (h : P m.core.seq.bus)
    (commands : List (Command κ)) : P (m.obeyAll host commands).core.seq.bus := by
  induction commands generalizing m with
  | nil => exact h
  | cons command commands ih => exact ih (obey_kept kept harmless h command)

end Machine

end Console6502
