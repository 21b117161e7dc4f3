import Ecosystem.Loops.ExecutorSafety
import Ecosystem.Teams.Closing
import Ecosystem.Teams.Claiming
import Ecosystem.Teams.Delegation
import Ecosystem.Access.Evaluation
import Ecosystem.Routing.Fallback
import Ecosystem.Routing.Reservation
import Ecosystem.Routing.Reselection
import Ecosystem.Store.Authorization
import Ecosystem.Store.Egress
import Ecosystem.Store.Shortfall
import Ecosystem.Orchestration.Channels
import Ecosystem.Changes.Replay
import Ecosystem.Changes.Closing
import Ecosystem.Changes.Losing
import Ecosystem.NoModel.AtMostOnce
import Ecosystem.Approval.Quorum
import Ecosystem.NoModel.InStep
import Ecosystem.Loops.Stagnation
import Ecosystem.Policy.Activation
import Ecosystem.Projections.Rerendering
import Ecosystem.Persistence.Publishing
import Ecosystem.Flow.Agreement
import Ecosystem.Skills.Instructions
import Ecosystem.Research.Broker
import Ecosystem.Sources.Review
import Ecosystem.Admission.Wrappings
import Ecosystem.Evaluation.Harness
import Ecosystem.Wire.Weakening
import Ecosystem.Loops.Histories
