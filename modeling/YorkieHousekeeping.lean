import YorkieHousekeeping.Effect
import YorkieHousekeeping.Sweep
import YorkieHousekeeping.SweepRun
import YorkieHousekeeping.Loop
import YorkieHousekeeping.Entries
import YorkieHousekeeping.Twins
import YorkieHousekeeping.Cycling
import YorkieHousekeeping.SharedInterval
import YorkieHousekeeping.Cluster
import YorkieHousekeeping.Service
import YorkieHousekeeping.Panic
import YorkieHousekeeping.Timed
