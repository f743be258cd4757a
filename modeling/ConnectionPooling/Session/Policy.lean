/-
# Scripted building of a policy

A policy is built up step by step, and what each step comes to is seen.
-/

import ConnectionPooling.Pool.Policy

namespace ConnectionPooling.Policy

/-- One step in building a policy. -/
inductive Step
  | limits (maxActive maxIdle : Nat)
  | maxCheckoutTime (time : Duration)
  | timeToWait (time : Duration)
  | tolerance (count : Nat)
  /-- Enable pings, with the query and the time a connection must be unused. -/
  | ping (query : String) (notUsedFor : Duration)
  /-- Inspect the policy, on one line or spread over several. -/
  | inspect (spread : Bool)

/-- What a step comes to: the policy after it, or a text. -/
inductive Reply
  | policy (policy : Policy)
  | text (value : String)

/-- The policy after a step. -/
def follow (policy : Policy) : Step → Policy
  | .limits maxActive maxIdle => { policy with maxActive := maxActive, maxIdle := maxIdle }
  | .maxCheckoutTime time => { policy with maxCheckoutTime := time }
  | .timeToWait time => { policy with timeToWait := time }
  | .tolerance count => { policy with tolerance := count }
  | .ping query notUsedFor =>
      { policy with pingEnabled := true, pingQuery := query, pingNotUsedFor := notUsedFor }
  | .inspect _ => policy

/-- What a step comes to, and the policy after it. -/
def step (policy : Policy) (step : Step) : Reply × Policy :=
  match step with
  | .inspect spread => (.text (policy.shown.render spread), policy)
  | step => (.policy (policy.follow step), policy.follow step)

end ConnectionPooling.Policy
