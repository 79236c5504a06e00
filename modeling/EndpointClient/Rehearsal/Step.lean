import EndpointClient.Rehearsal.World

/-!
# EndpointClient.Rehearsal.Step

The steps of tasks.

* `World.step` is one step of a task: it goes on, has ended, or has to wait.
* `World.deadline?` is the time that a waiting task waits for.
-/

namespace EndpointClient.Rehearsal

/-- What comes of a step of a task. -/
inductive Progress where
  | moved (w : World)
  | ended (w : World)
  | blocked

/-- The step of something that waits where there is none. -/
def Progress.ofOption : Option World → Progress
  | some w => .moved w
  | none => .blocked

namespace World

/-! ## Requests -/

/-- Sets a request to another state, and notes what has happened. -/
def putTicket (w : World) (i : Nat) (t : Ticket) (j : Journal) : World :=
  (w.modifySend i fun s => { s with ticket := t }).note j

/-- A step of a request on the side of the caller. A request with an entity starts a task for the
call of its engine when it begins; one without makes the call itself. -/
def stepSend (w : World) (i : Nat) : Progress :=
  match w.sends[i]? with
  | none => .blocked
  | some s =>
    if s.ticket.isFinished then .ended w
    else if s.ticket.cancelled then
      match s.ticket.advance w.now with
      | some (t, j) => .ended ((w.putTicket i t j).dropCall? s.call)
      | none => .blocked
    else
      match s.ticket.dispatch.work, s.call with
      | .inline q, none =>
        let (w, c) := w.beginCall s.engine q (some 0) (.chunks [])
        .moved (w.modifySend i fun s => { s with call := some c })
      | .inline _, some c =>
        match w.callEnd? c with
        | some how =>
          let (t, j) := s.ticket.finishCall w.now how
          .ended (w.putTicket i t j)
        | none => .ofOption (w.stepCall c)
      | _, _ =>
        match s.ticket.advance w.now with
        | none => .blocked
        | some (t, j) =>
          let begins := match s.ticket.dispatch.work, t.dispatch.work with
            | .unbegun, .streamed _ => true
            | _, _ => false
          let w := w.putTicket i t j
          .moved (if begins then w.spawn (.carry i) else w)

def stepCarry (w : World) (i : Nat) : Progress :=
  match w.sends[i]? with
  | none => .ended w
  | some s =>
    if !s.ticket.dispatch.callLives then .ended w
    else
      match s.call, s.ticket.dispatch.work with
      | none, .streamed x =>
        let (w, c) := w.beginCall s.engine x.request none (.send i)
        .moved (w.modifySend i fun s =>
          { s with call := some c, ticket := (s.ticket.callStep w.now .ask).1 })
      | none, _ => .ended w
      | some c, _ =>
        match w.callEnd? c with
        | some how =>
          let (t, j) := s.ticket.finishCall w.now how
          .ended (w.putTicket i t j)
        | none => .ofOption (w.stepCall c)

def stepLaunch (w : World) (i : Nat) : Progress :=
  match w.launches[i]? with
  | none => .ended w
  | some l =>
    if l.aborted then .ended (w.dropCall? l.call)
    else
      match l.call with
      | none =>
        let (w, c) := w.beginCall l.engine l.request l.exactSize (.chunks l.body)
        .moved { w with launches := w.launches.modify i fun l => { l with call := some c } }
      | some c =>
        if (w.callEnd? c).isSome then .ended w else .ofOption (w.stepCall c)

def launchIsOver (w : World) (i : Nat) : Bool :=
  match w.launches[i]? with
  | none => true
  | some l => l.aborted || (l.call.bind w.callEnd?).isSome

/-! ## Monitors -/

/-- Sets a monitor to another state, and notes what has happened. -/
def putMonitor (w : World) (i : Nat) (m : Monitor) (j : Journal) : World :=
  { w with watched := w.watched.modify i fun x => { x with monitor := m } }.note j

def probeResult : Except EngineError Http.Response → ProbeResult
  | .ok r => .ok r.status
  | .error e => .error e

def beginProbeCall (w : World) (engine : Nat) (t : ProbeTarget) : World × Nat :=
  w.beginCall engine t.request (some 0) (.chunks [])

def stepSchedule (w : World) (i : Nat) : Progress :=
  match w.watched[i]? with
  | none => .ended w
  | some x =>
    if x.monitor.scheduleIsOver then .ended w
    else
      match x.call with
      | some c =>
        match w.callEnd? c with
        | none => .ofOption (w.stepCall c)
        | some how =>
          let w := { w with watched := w.watched.modify i fun x => { x with call := none } }
          match how, x.monitor.schedule with
          | .returned r, some ⟨_, _, .probing number⟩ =>
            let (m, j) := x.monitor.endProbe number w.now (probeResult r)
            .moved (w.putMonitor i m j)
          | _, _ => .ended (w.putMonitor i x.monitor.breakSchedule [])
      | none =>
        match x.monitor.pollSchedule w.now with
        | none => .blocked
        | some (m, j) =>
          let w := w.putMonitor i m j
          if m.scheduleIsOver then .ended w
          else
            let (w, c) := w.beginProbeCall x.engine m.target
            .moved { w with watched := w.watched.modify i fun x => { x with call := some c } }

def stateOf (w : World) (i : Nat) : HealthState :=
  (w.watched[i]?).elim .unhealthy (·.monitor.state)

/-- A step of one query of a monitor, with the query after it. A breakdown of the engine ends
nothing. -/
def stepQuery (w : World) (i : Nat) : QueryJob → Option (World × QueryJob)
  | .fresh q =>
    (w.watched[i]?).map fun x =>
      match q.ask w.now x.monitor with
      | (_, .answered a) => (w, .done a)
      | (m, .probing number) =>
        let (w, c) := (w.putMonitor i m []).beginProbeCall x.engine m.target
        (w, .probing q number c)
  | .probing q number c =>
    match w.callEnd? c with
    | none => (w.stepCall c).map fun w => (w, .probing q number c)
    | some (.returned r) =>
      (w.watched[i]?).map fun x =>
        let (m, j, a) := q.resume w.now number (probeResult r) x.monitor
        (w.putMonitor i m j, .done a)
    | some (.panicked _) => none
  | .done _ => none

/-- A step of the first of several queries that can go on. -/
def stepQueries (w : World) (i : Nat) : List QueryJob → Option (World × List QueryJob)
  | [] => none
  | job :: rest =>
    match w.stepQuery i job with
    | some (w, job) => some (w, job :: rest)
    | none => (w.stepQueries i rest).map fun (w, rest) => (w, job :: rest)

/-! ## The foreground -/

def withFront (w : World) (f : Foreground) : World := { w with front := f }

def monitors (w : World) : List Monitor := w.watched.map (·.monitor)

def putMonitors (w : World) (ms : List Monitor) : World :=
  { w with watched := List.zipWith (fun x m => { x with monitor := m }) w.watched ms }

/-- Drops the calls of schedules that are over. -/
def dropOver (w : World) : World :=
  w.watched.foldl (fun w x => if x.monitor.scheduleIsOver then w.dropCall? x.call else w) w

/-- A step of the shutdowns of the first monitors, in their order. -/
def stepShutdowns (w : World) (jobs : List MonitorShutdown) : Progress :=
  match MonitorShutdown.advanceFirst w.now jobs w.monitors with
  | some (jobs, ms, j) => .moved (((w.putMonitors ms).note j).dropOver.withFront (.shutdown jobs))
  | none => if jobs.all MonitorShutdown.isOver then .ended w else .blocked

/-- Ends the reporting, and drops the probe that it waits for. -/
def endReport (w : World) (r : Report) (call : Option Nat) : World :=
  let (r, ms) := r.stop w.monitors
  ((w.putMonitors ms).dropCall? call).withFront (.report r none)

/-- A step of the reporting. The signal to end comes first, unless the reporting is broken from the
start. A breakdown of the engine ends nothing. -/
def stepReport (w : World) (r : Report) (call : Option Nat) : Progress :=
  if r.isBroken then .ended w
  else
    match (w.listener.receive w.shutdown).1 with
    | .nothingYet =>
      match r.phase, call with
      | .stopped, _ => .ended w
      | .probing _ _ _, some c =>
        match w.callEnd? c with
        | none => .ofOption (w.stepCall c)
        | some (.panicked _) => .blocked
        | some (.returned result) =>
          match r.resume w.now (probeResult result) w.monitors with
          | none => .blocked
          | some (r, ms, j) => .moved (((w.putMonitors ms).note j).withFront (.report r none))
      | _, _ =>
        match r.advance w.now w.monitors with
        | none => .blocked
        | some (r, ms, j) =>
          let w := (w.putMonitors ms).note j
          match r.phase with
          | .probing index _ _ =>
            match w.watched[index]? with
            | none => .moved (w.withFront (.report r none))
            | some x =>
              let (w, c) := w.beginProbeCall x.engine x.monitor.target
              .moved (w.withFront (.report r (some c)))
          | _ => .moved (w.withFront (.report r none))
    | _ => .ended (w.endReport r call)

/-- A step of the making of monitors. Each has an engine of its own, in their order. -/
def stepStartup (w : World) (s : Startup) (call : Option Nat) : Progress :=
  match call with
  | some c =>
    match w.callEnd? c with
    | none => .ofOption (w.stepCall c)
    | some (.panicked _) => .blocked
    | some (.returned r) =>
      let (s, j) := s.endProbe w.now (probeResult r)
      .moved ((w.note j).withFront (.startup s none))
  | none =>
    match s.advance w.clock w.now w.monitors with
    | none => .ended w
    | some (s, ms, j) =>
      let index := w.watched.length
      let w := (w.putMonitors ms).note j
      match s.current with
      | some (_, d) =>
        let (w, c) := w.beginProbeCall index d.monitor.target
        .moved (w.withFront (.startup s (some c)))
      | none =>
        let added : List Watched := (ms.drop index).map fun m => ⟨m, index, none, false⟩
        let w := { w with watched := w.watched ++ added }
        .moved ((if added.any (·.monitor.schedule.isSome) then w.spawn (.schedule index)
          else w).withFront (.startup s none))

def stepFront (w : World) : Progress :=
  match w.front with
  | .nothing => .ended w
  | .sleep time => if time ≤ w.now then .ended w else .blocked
  | .ask i jobs =>
    match w.stepQueries i jobs with
    | some (w, jobs) => .moved (w.withFront (.ask i jobs))
    | none => if jobs.all fun | .done _ => true | _ => false then .ended w else .blocked
  | .make draft engine c =>
    match w.callEnd? c with
    | none => .ofOption (w.stepCall c)
    | some (.panicked _) => .blocked
    | some (.returned r) =>
      let (m, j) := draft.monitor.endProbe 0 w.now (probeResult r)
      let (m, j') := { draft with monitor := m }.complete w.clock
      let w := { w with watched := w.watched ++ [(⟨m, engine, none, false⟩ : Watched)] }.note (j' ++ j)
      .ended (if m.schedule.isSome then w.spawn (.schedule (w.watched.length - 1)) else w)
  | .shutdown jobs => w.stepShutdowns jobs
  | .send i => w.stepSend i
  | .handle i => if (w.sends[i]?).all (·.ticket.isFinished) then .ended w else .blocked
  | .call c => if (w.callEnd? c).isSome then .ended w else .ofOption (w.stepCall c)
  | .launch i => if w.launchIsOver i then .ended w else .blocked
  | .report r call => w.stepReport r call
  | .startup s call => w.stepStartup s call

/-! ## Tasks -/

def step (w : World) : Task → Progress
  | .front => w.stepFront
  | .send i => w.stepSend i
  | .carry i => w.stepCarry i
  | .launch i => w.stepLaunch i
  | .schedule i => w.stepSchedule i
  | .alarm =>
    match w.alarm with
    | none => .ended w
    | some (time, ending) =>
      if time ≤ w.now then
        let shutdown := match ending with
          | .signals n => Shutdown.triggerTimes n w.shutdown
          | .hangUp => w.shutdown.dropHandle
        .ended { w with shutdown := shutdown, alarm := none }
      else .blocked

/-- Whether a task that waits can go on. -/
def canStep (w : World) (t : Task) : Bool :=
  match w.step t with
  | .blocked => false
  | _ => true

def sendDeadline? (w : World) (i : Nat) : Option Nat :=
  ((w.sends[i]?).bind (·.call)).bind w.callDeadline?

def frontDeadline? (w : World) : Option Nat :=
  match w.front with
  | .sleep time => some time
  | .ask _ jobs =>
    (jobs.filterMap fun | .probing _ _ c => w.callDeadline? c | _ => none).min?
  | .make _ _ c => w.callDeadline? c
  | .shutdown jobs => (jobs.filterMap MonitorShutdown.deadline?).min?
  | .send i => w.sendDeadline? i
  | .call c => w.callDeadline? c
  | .report r call =>
    match r.phase with
    | .waiting => some r.next
    | _ => call.bind w.callDeadline?
  | .startup _ call => call.bind w.callDeadline?
  | _ => none

def deadline? (w : World) : Task → Option Nat
  | .front => w.frontDeadline?
  | .send i => w.sendDeadline? i
  | .carry i => w.sendDeadline? i
  | .launch i => ((w.launches[i]?).bind (·.call)).bind w.callDeadline?
  | .schedule i =>
    (w.watched[i]?).bind fun x =>
      match x.call, x.monitor.schedule with
      | some c, _ => w.callDeadline? c
      | none, some ⟨_, next, .idle⟩ => some next
      | _, _ => none
  | .alarm => w.alarm.map (·.1)

end World

end EndpointClient.Rehearsal
