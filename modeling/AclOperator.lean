import AclOperator.Spec.Values
import AclOperator.Spec.Types
import AclOperator.Spec.Naming
import AclOperator.Spec.Egress
import AclOperator.Spec.Store
import AclOperator.Spec.Reconcile
import AclOperator.Spec.AppAdress
import AclOperator.Proof.Prog
import AclOperator.Proof.Calls
import AclOperator.Proof.Pass
import AclOperator.Proof.Enrich
import AclOperator.Proof.Policy
import AclOperator.Proof.Status
import AclOperator.Proof.Ensure
import AclOperator.Proof.Naming
import AclOperator.Proof.Records
import AclOperator.Proof.Settled
import AclOperator.Proof.Requeued
import AclOperator.Proof.Replay
import AclOperator.Proof.Converge
import AclOperator.Proof.Ready
import AclOperator.Proof.Frame
import AclOperator.Proof.AppAdress
import AclOperator.Proof.AppAdressRun
import AclOperator.Proof.Written
import AclOperator.Proof.Workers
import AclOperator.Proof.Owned
