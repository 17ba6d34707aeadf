import RenderCore.Proofs.Renderer.Kinds
namespace RenderCore

def Destroyer.OfCaller : Destroyer → Prop
  | .destroy _ => False
  | _ => True

theorem Destroyer.OfCaller.kinded {d : Destroyer} (caller : d.OfCaller) : d.Kinded := by
  cases d with
  | destroy h => exact absurd caller id
  | release s => trivial
  | note n => trivial

namespace Context

inductive Step : Context → Context → Prop
  | pipelineLayout {c c' : Context} (stages : List StageInterface) {r : Except Error PipelineLayout}
      (run : (pipelineLayout stages).run c = .ok r c') : Step c c'
  | allocate {c c' : Context} (layout : SetLayout) {r : Except Error DescriptorSet}
      (run : (allocate layout).run c = .ok r c') : Step c c'
  | release {c c' : Context} (s : DescriptorSet) (run : (runDestroyer (.release s)).run c = .ok () c') : Step c c'
  | write {c c' : Context} (s : DescriptorSet) (binding first : UInt32) (resources : List Resource)
      {r : Except Error Unit} (run : (write s binding first resources).run c = .ok r c') : Step c c'
  | destroyPools {c c' : Context} {n : Nat} (run : destroyPools.run c = .ok n c') : Step c c'
  | createPipeline {c c' : Context} (desc : PipelineDesc) {p : Pipeline}
      (run : (createPipeline desc).run c = .ok p c') : Step c c'
  | link {c c' : Context} (layout : PipelineLayout) (libs : List Pipeline) {p : Pipeline}
      (run : (link layout libs).run c = .ok p c') : Step c c'
  | evict {c c' : Context} (fragment : String) {n : Nat} (run : (evict fragment).run c = .ok n c') : Step c c'
  | flushRelinks {c c' : Context} (run : flushRelinks.run c = .ok () c') : Step c c'
  | newTimeline {c c' : Context} (name : String) {r : Except Error Nat}
      (run : (newTimeline name).run c = .ok r c') : Step c c'
  | promise {c c' : Context} (i : Nat) {p : Promise} (run : (promise i).run c = .ok p c') : Step c c'
  | signal {c c' : Context} (p : Promise) (run : (signal p).run c = .ok () c') : Step c c'
  | hold {c c' : Context} (i : Nat) (run : (hold i).run c = .ok () c') : Step c c'
  | letGo {c c' : Context} (i : Nat) (run : (letGo i).run c = .ok () c') : Step c c'
  | signalInfo {c c' : Context} (i : Nat) (stage : UInt64) {t : Ticket}
      (run : (signalInfo i stage).run c = .ok t c') : Step c c'
  | submitted {c c' : Context} (t : Ticket) (run : (submitted t).run c = .ok () c') : Step c c'
  | waiterPending {c c' : Context} (i : Nat) {w : Waiter} (run : (waiterPending i).run c = .ok w c') : Step c c'
  | waiterCurrent {c c' : Context} (i : Nat) {w : Waiter} (run : (waiterCurrent i).run c = .ok w c') : Step c c'
  | poll {c c' : Context} (w : Waiter) {b : Bool} (run : (poll w).run c = .ok b c') : Step c c'
  | waitFor {c c' : Context} (i : Nat) (v : UInt64) (run : (waitFor i v).run c = .ok () c') : Step c c'
  | waiterInfo {c c' : Context} (w : Waiter) (stage : UInt64) {p : SyncPoint}
      (run : (waiterInfo w stage).run c = .ok p c') : Step c c'
  | query {c c' : Context} (i : Nat) {v : UInt64} (run : (query i).run c = .ok v c') : Step c c'
  | waitInfo {c c' : Context} (i : Nat) (stage : UInt64) {p : SyncPoint}
      (run : (waitInfo i stage).run c = .ok p c') : Step c c'
  | beginFrame {c c' : Context} {f : Frame} (run : beginFrame.run c = .ok f c') : Step c c'
  | surface {c c' : Context} (f : Frame) {o : Option Handle} (run : (surface f).run c = .ok o c') : Step c c'
  | scratch {c c' : Context} (f : Frame) (name : String) (size : UInt64) (usage : BufferUsage) {b : Scratch}
      (run : (scratch f name size usage).run c = .ok b c') : Step c c'
  | writeScratch {c c' : Context} (b : Scratch) (offset : UInt64) (len : Nat) {r : Except Error Unit}
      (run : (writeScratch b offset len).run c = .ok r c') : Step c c'
  | commandBuffer {c c' : Context} (f : Frame) (name : String) {h : Handle}
      (run : (commandBuffer f name).run c = .ok h c') : Step c c'
  | waitPoint {c c' : Context} (p : SyncPoint) (run : (waitPoint p).run c = .ok () c') : Step c c'
  | signalTicket {c c' : Context} (t : Ticket) (run : (signalTicket t).run c = .ok () c') : Step c c'
  | deferDestroy {c c' : Context} (f : Frame) {d : Destroyer} (caller : d.OfCaller)
      (run : (deferDestroy f d).run c = .ok () c') : Step c c'
  | cancel {c c' : Context} (f : Frame) (run : (cancel f).run c = .ok () c') : Step c c'
  | endFrame {c c' : Context} (f : Frame) {w : Option Waiter} {ds : List Destroyer}
      (waiter : ∀ x ∈ w, x.timeline < c.timelines.size) (caller : ∀ d ∈ ds, d.OfCaller)
      (run : (endFrame f w ds).run c = .ok () c') : Step c c'
  | dropFrame {c c' : Context} (f : Frame) (run : (dropFrame f).run c = .ok () c') : Step c c'
  | queueDestroy {c c' : Context} {d : Destroyer} (caller : d.OfCaller)
      (run : (queueDestroy d).run c = .ok () c') : Step c c'
  | resize {c c' : Context} (width height : UInt32) (run : (resize width height).run c = .ok () c') : Step c c'
  | setFramesInFlight {c c' : Context} (n : UInt32) {r : Except Error Unit}
      (run : (setFramesInFlight n).run c = .ok r c') : Step c c'
  | waitAll {c c' : Context} {r : Except Error Nat} (run : waitAll.run c = .ok r c') : Step c c'
  | teardown {c c' : Context} (run : teardown.run c = .ok () c') : Step c c'
  | device {c : Context} (d : Device) : Step c { c with device := d }

inductive Reachable : Context → Prop
  | start {c c' : Context} (d : Device) (settings : Settings) {r : Except Error Unit}
      (run : (start d settings).run c = .ok r c') : Reachable c'
  | step {c c' : Context} (reached : Reachable c) (step : Step c c') : Reachable c'

variable {c c' : Context}

theorem Kinded.step (kinded : c.Kinded) (step : Step c c') : c'.Kinded := by
  have timeline := kindsKept_timeline
  cases step with
  | pipelineLayout stages run => exact respects_pipelineLayout stages _ _ _ run kinded
  | allocate layout run => exact kinded.allocate run
  | release s run =>
    exact respects_of_ring (storesKept_blind.respects_runDestroyer _) (keepsRing_runDestroyer _) _ _ _ run kinded
  | write s binding first resources run => exact respects_write s binding first resources _ _ _ run kinded
  | destroyPools run => exact respects_destroyPools _ _ _ run kinded
  | createPipeline desc run => exact respects_createPipeline desc _ _ _ run kinded
  | link layout libs run => exact kinded.link run
  | evict fragment run => exact kinded.evict run
  | flushRelinks run => exact respects_flushRelinks _ _ _ run kinded
  | newTimeline name run => exact kinded.newTimeline run
  | promise i run => exact timeline.respects_promise i _ _ _ run kinded
  | signal p run => exact timeline.respects_signal p _ _ _ run kinded
  | hold i run => exact timeline.respects_hold i _ _ _ run kinded
  | letGo i run => exact timeline.respects_letGo i _ _ _ run kinded
  | signalInfo i stage run => exact timeline.respects_signalInfo i stage _ _ _ run kinded
  | submitted t run => exact timeline.respects_submitted t _ _ _ run kinded
  | waiterPending i run => exact timeline.respects_waiterPending i _ _ _ run kinded
  | waiterCurrent i run => exact timeline.respects_waiterCurrent i _ _ _ run kinded
  | poll w run => exact timeline.respects_poll w _ _ _ run kinded
  | waitFor i v run => exact timeline.respects_waitFor i v _ _ _ run kinded
  | waiterInfo w stage run => exact timeline.respects_waiterInfo w stage _ _ _ run kinded
  | query i run => exact timeline.respects_query i _ _ _ run kinded
  | waitInfo i stage run => exact timeline.respects_waitInfo i stage _ _ _ run kinded
  | beginFrame run => exact kinded.beginFrame run
  | surface f run => exact kinded.surface run
  | scratch f name size usage run => exact kinded.scratch run
  | writeScratch b offset len run => exact timeline.respects_writeScratch b offset len _ _ _ run kinded
  | commandBuffer f name run => exact kinded.commandBuffer run
  | waitPoint p run => exact kinded.waitPoint run
  | signalTicket t run => exact kinded.signalTicket run
  | deferDestroy f caller run => exact kinded.deferDestroy caller.kinded run
  | cancel f run => exact kinded.cancel run
  | endFrame f waiter caller run => exact kinded.endFrame waiter (fun d given => (caller d given).kinded) run
  | dropFrame f run => exact kinded.dropFrame run
  | queueDestroy caller run => exact kinded.queueDestroy caller.kinded run
  | resize width height run => exact kinded.resize run
  | setFramesInFlight n run => exact kinded.setFramesInFlight run
  | waitAll run => exact kinded.waitAll run
  | teardown run => exact respects_teardown _ _ _ run kinded
  | device d => exact kinded.device d

theorem Reachable.kinded (reached : Reachable c) : c.Kinded := by
  induction reached with
  | start d settings run => exact kinded_start run
  | step _ step kinded => exact kinded.step step

end Context

end RenderCore
