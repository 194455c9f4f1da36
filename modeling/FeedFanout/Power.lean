/-!
Powers of whole numbers. They are those of the core library, also in modules where other powers are declared.
-/

attribute [default_instance 20000, instance (20000)] instPowNat
